import XGovernor.Joint.Intents

/-!
# Joint turns

A turn is a row of its own, an operation with the source fence of its session, and the status
of that session.  The three are written by different transactions; they agree in every database
that calls lead to, so a session has at most one turn that has not ended.

First it is said once what any call can do to fences, turns, sessions and references; the invariant
`TurnsAgree` is then kept clause by clause.
-/

namespace XGovernor.Joint

open Domain Lib Ledger Table

variable {config : StoreConfig} {s s' : Db} {call : Call}
variable {id runtimeId turnId : String} {op op' : OperationRow} {admission : JointAdmission}
  {key : String × String} {turn : TurnRow} {request : JointPrepareRequest}
  {terminal : JointTurnTerminal} {session row row' : JointSessionRow} {turn' : TurnRow}

/-! ## Fences of turns -/

/-- **Fences of turns**: a turn keeps its fence until it settles. -/
theorem Effect.turn_holds (heff : Effect config s call s') (sound : s.ledger.Sound)
    (coherent : s.ledger.Coherent) (hop : s.operations.get? id = some op)
    (hturn : op.request.context.operation = .turn) :
    Keeps s.ledger.fences s'.ledger.fences id ∨
      ∃ admission terminal session, admission.intentId = id ∧
        s' = s.turnSettled op admission terminal session := by
  have hfresh : ∀ {id' : String}, s.operations.get? id' = none → id ≠ id' := by
    rintro id' hnone rfl
    cases hnone.symm.trans hop
  have hhost : ∀ {access : HostAccessTokenV1} {h : HostIntentV1},
      s.ledger.HasJournal access h → id ≠ access.admission.intentId := by
    rintro access h hjour rfl
    have his := (sound.journal_of hjour.stored hop).host
    rw [hturn] at his
    exact absurd his (by decide)
  cases heff.fences coherent with
  | same fences => exact .inl (keeps_of_eq fences)
  | @freed admission op' runs fences turn =>
    by_cases hid : id = admission.intentId
    · subst hid
      obtain rfl := Option.mem_unique hop runs.stored
      obtain ⟨terminal, session, hsettled⟩ := turn hturn
      exact .inr ⟨admission, terminal, session, rfl, hsettled⟩
    · exact .inl (keeps_of_freed fences hid)
  | freedHost _ journal fences => exact .inl (keeps_of_freed fences (hhost journal))
  | took taker keeps =>
    cases taker with
    | joint admits | host admits => exact .inl (keeps id (hfresh admits.fresh))
    | resumed _ journal => exact .inl (keeps id (hhost journal))

section

variable (heff : Effect config s call s') (hnone : s.operations.get? id = none)
  (hop' : s'.operations.get? id = some op')
include heff hnone hop'

/-- **New operations**: an operation that a call adds was admitted by it, or is the cleanup of a
Host operation that runs. -/
theorem Effect.operation_added :
    (∃ request epochs, Admits config s request s' ∧ id = request.context.intentId ∧
      op' = newOperationRow request epochs) ∨
    (∃ prepared epochs, AdmitsHost config s prepared s' ∧ op' = hostOperationRow prepared epochs) ∨
      ∃ access h op, s.ledger.RunsHost access h op ∧ op' = cleanupOperationRow op access h id := by
  cases heff with
  | @admitJoint request s' admits =>
    obtain ⟨epochs, hops, -⟩ := admits.acquires
    rw [hops] at hop'
    obtain ⟨hid, rfl⟩ := get?_add_new hnone hop'
    exact .inl ⟨request, epochs, admits, hid, rfl⟩
  | @admitHost prepared s' admits =>
    obtain ⟨epochs, _, _, hops, -⟩ := admits.admitted
    rw [hops] at hop'
    exact .inr (.inl ⟨prepared, epochs, admits, (get?_add_new hnone hop').2⟩)
  | @delegateCleanup access childId _ h op _ runs =>
    obtain ⟨rfl, rfl⟩ := get?_add_new hnone hop'
    exact .inr (.inr ⟨access, h, op, runs, rfl⟩)
  | _ =>
    simp [Db.published, Db.turnSettled, Db.compensated, Db.released, stagedOperation,
      advancedOperation, get?_modify, hnone] at hop'

/-- An ordinary operation that a call adds was admitted by it. -/
theorem Effect.operation_new (hord : op'.request.context.operation.isHost = false) :
    ∃ request epochs, Admits config s request s' ∧ id = request.context.intentId ∧
      op' = newOperationRow request epochs := by
  rcases heff.operation_added hnone hop' with
    hadm | ⟨prepared, epochs, admits, rfl⟩ | ⟨access, h, op, -, rfl⟩
  · exact hadm
  · simp [hostOperationRow, hostJointRequest, operation_of_verifyRequest admits.verified,
      isHost_operation] at hord
  · simp [cleanupOperationRow, Operation.isHost] at hord

end

/-! ## How turns change -/

theorem turnSettled_turn (s : Db) (op : OperationRow) (admission : JointAdmission)
    (terminal : JointTurnTerminal) (session : JointSessionRow) (key : String × String) :
    (s.turnSettled op admission terminal session).turns.get? key =
      (s.turns.get? key).map fun turn =>
        if turn.intentId = admission.intentId then { turn with terminal := some terminal }
        else turn := by
  simp [Db.turnSettled, get?_modify]

/-- A settled turn has given up its fence. -/
theorem not_holds_turnSettled {key : FenceKind × String} :
    ¬ Holds (s.turnSettled op admission terminal session).ledger.fences key
      admission.intentId := by
  intro hholds
  change Holds (freedFences s.fences admission.intentId).get? _ _ at hholds
  rw [freedFences_get?, holds_released_iff] at hholds
  exact hholds.2 rfl

/-- How a call may have changed the row of a turn. -/
inductive TurnChange (s s' : Db) (key : String × String) (row : TurnRow) : TurnRow → Prop
  | same : TurnChange s s' key row row
  | settled {admission : JointAdmission} {terminal : JointTurnTerminal} {op : OperationRow}
      {session : JointSessionRow} (runs : s.ledger.RunsOrdinary admission op)
      (turn : op.request.context.operation = .turn) (id_eq : row.intentId = admission.intentId)
      (settled : s' = s.turnSettled op admission terminal session) :
      TurnChange s s' key row { row with terminal := some terminal }

/-- A turn that a call adds was admitted by it. -/
inductive NewTurn (config : StoreConfig) (s s' : Db) (key : String × String) : TurnRow → Prop
  | admitted {request : JointPrepareRequest} {turn : JointTurnIdentity}
      (admits : Admits config s request s') (carries : request.turn = some turn)
      (key_eq : key = (request.sourceId, turn.turnId)) :
      NewTurn config s s' key (newTurnRow request turn)

/-- A turn keeps its operation and its client request. -/
theorem TurnChange.identity {row row' : TurnRow} (h : TurnChange s s' key row row') :
    row'.intentId = row.intentId ∧ row'.clientRequestId = row.clientRequestId := by
  cases h <;> exact ⟨rfl, rfl⟩

/-- **Turns stay**: a call changes the row of a turn only when it settles the turn. -/
theorem Effect.turns (heff : Effect config s call s') :
    Evolves s.turns.get? s'.turns.get? (NewTurn config s s') (TurnChange s s') := by
  have hrefl : ∀ key row, TurnChange s s' key row row := fun _ _ => .same
  cases heff with
  | @admitJoint request s' admits =>
    cases hturn : request.turn with
    | none => exact .of_eq hrefl (congrArg get? (admits.idle hturn).1)
    | some turn =>
      rw [(admits.turn turn hturn).turns]
      exact .insert hrefl (admits.turn turn hturn).free ⟨admits, hturn, rfl⟩
  | @settleTurn admission terminal op session runs turn =>
    refine .modify hrefl fun key row _ hid => ?_
    exact .settled runs turn (of_decide_eq_true hid) rfl
  | admitHost admits => exact .of_eq hrefl (by rw [admits.frame]; rfl)
  | _ => exact .refl hrefl

/-! ## How sessions change -/

/-- A session whose turn has ended is neither running nor closed. -/
theorem JointTurnTerminal.status_eq (terminal : JointTurnTerminal) :
    terminal.status ≠ .running ∧ terminal.status ≠ .closed := by
  unfold JointTurnTerminal.status
  split <;> simp

/-- How a call may have changed the row of a session. -/
inductive SessionChange (config : StoreConfig) (s s' : Db) (runtimeId : String)
    (row : JointSessionRow) : JointSessionRow → Prop
  | same : SessionChange config s s' runtimeId row row
  | begun {request : JointPrepareRequest} {turn : JointTurnIdentity}
      (admits : Admits config s request s') (carries : request.turn = some turn)
      (id_eq : runtimeId = request.sourceId)
      (available : row.body.status = .idle ∨ row.body.status = .failed) :
      SessionChange config s s' runtimeId row
        { row with status := .running, body := { row.body with status := .running } }
  | ended {admission : JointAdmission} {terminal : JointTurnTerminal} {op : OperationRow}
      {session : JointSessionRow} (runs : s.ledger.RunsOrdinary admission op)
      (turn : op.request.context.operation = .turn) (id_eq : runtimeId = op.request.sourceId)
      (settled : s' = s.turnSettled op admission terminal session) :
      SessionChange config s s' runtimeId row (row.afterTurn row.body terminal)
  | invalidated {admission : JointAdmission} {op : OperationRow}
      (runs : s.ledger.Runs admission op) (turn : op.request.context.operation = .turn)
      (id_eq : runtimeId = op.request.sourceId) :
      SessionChange config s s' runtimeId row
        { row with
          status := .failed
          body := { row.body with
            status := .failed
            lastError := some "message_execution_invalidated" } }
  | closed {admission op updatedAtMs} (runs : s.ledger.RunsOrdinary admission op)
      (close : op.request.context.operation = .close)
      (identity : op.request.context.sourceRuntimeId = some runtimeId)
      (owned : s.refs.get? (.session, runtimeId) = some admission.binding.bindingId)
      (dropped : s'.refs.get? (.session, runtimeId) = none) :
      SessionChange config s s' runtimeId row (row.closed row.body updatedAtMs)

/-- A session that a call adds was published by it. -/
inductive NewSession (s : Db) (runtimeId : String) : JointSessionRow → Prop
  | published {admission record op}
      (backing : record.executionBacking.joint = some admission.binding)
      (idle : record.status = .idle) (unsplit : s.sessions.get? runtimeId = none)
      (runs : s.ledger.RunsOrdinary admission op)
      (creates : op.request.context.operation.creates = true)
      (identity : createdIdentity op.request.context = (.session, runtimeId))
      (id_eq : record.runtimeId = runtimeId)
      (tenant : record.tenantId = op.request.context.tenantId) :
      NewSession s runtimeId
        ⟨admission.binding.bindingId, record.tenantId, .idle, record.updatedAtMs, record⟩

/-- A session keeps its binding. -/
theorem SessionChange.binding (h : SessionChange config s s' runtimeId row row') :
    row'.bindingId = row.bindingId := by
  cases h <;> rfl

section

variable (heff : Effect config s call s')
include heff

/-- **Sessions stay**: a call drops no session, and a session that it adds was published by it. -/
theorem Effect.jointSessions :
    Evolves s.jointSessions.get? s'.jointSessions.get? (NewSession s)
      (SessionChange config s s') := by
  have hrefl : ∀ id row, SessionChange config s s' id row row := fun _ _ => .same
  cases heff with
  | @admitJoint request s' admits =>
    cases hturn : request.turn with
    | none => exact .of_eq hrefl (congrArg get? (admits.idle hturn).2)
    | some turn =>
      obtain ⟨session, hsession, -, havailable, hsess⟩ := (admits.turn turn hturn).session
      rw [hsess]
      exact .modify_key hrefl hsession (.begun admits hturn rfl havailable)
  | publishSession runs _ creates identity backing idle unsplit free tenant =>
    exact .insert hrefl free ⟨backing, idle, unsplit, runs, creates, identity, rfl, tenant⟩
  | settleTurn runs turn _ _ stored => exact .modify_key hrefl stored (.ended runs turn rfl rfl)
  | closeSession runs close identity _ _ owned stored =>
    refine .modify_key hrefl stored (.closed runs close identity owned ?_)
    simp [Db.released, get?_erase, owned]
  | invalidate runs turn _ stored => exact .modify_key hrefl stored (.invalidated runs turn rfl)
  | admitHost admits => exact .of_eq hrefl (by rw [admits.frame]; rfl)
  | _ => exact .refl hrefl

/-! ## References to sessions -/

/-- The reference of a session is new only with the session, and dropped only by its close. -/
theorem Effect.sessionRef_change :
    s'.refs.get? (.session, runtimeId) = s.refs.get? (.session, runtimeId) ∨
      (s.refs.get? (.session, runtimeId) = none ∧ s.jointSessions.get? runtimeId = none) ∨
      ∃ admission op, s.ledger.RunsOrdinary admission op ∧ op.request.context.operation = .close ∧
        op.request.context.sourceRuntimeId = some runtimeId ∧
        s.refs.get? (.session, runtimeId) = some admission.binding.bindingId := by
  cases heff with
  | @admitJoint request s' admits =>
    rw [admits.refs]
    cases request.parentBinding with
    | none => exact .inl rfl
    | some parent => exact .inl (by simp [get?_add])
  | @publishSession _ record _ _ _ _ _ _ _ _ free =>
    by_cases hid : runtimeId = record.runtimeId
    · cases href : s.refs.get? (.session, runtimeId) with
      | none => exact .inr (.inl ⟨rfl, hid ▸ free⟩)
      | some bindingId => exact .inl (by simp [Db.published, get?_add, href])
    · exact .inl (by simp [Db.published, get?_add, hid])
  | publishCheckpoint => exact .inl (by simp [Db.published, get?_add])
  | finishCompensation | deleteJointCheckpoint | failStale | finishCleanup =>
    exact .inl (by simp [Db.compensated, Db.released, get?_erase])
  | @closeSession admission publicId _ op _ _ runs close identity _ _ owned =>
    by_cases hid : runtimeId = publicId
    · subst hid
      exact .inr (.inr ⟨admission, op, runs, close, identity, owned⟩)
    · exact .inl (by simp [Db.released, get?_erase, hid])
  | admitHost admits =>
    rw [admits.refs]
    exact .inl (by simp [get?_add])
  | publishHost =>
    refine .inl ?_
    show (ite _ _ _ : Table _ _).get? _ = _
    split
    · simp [get?_erase]
    · rfl
  | _ => exact .inl rfl

end

/-! ## The invariant -/

/-- The operation of a turn of the session. -/
structure IsTurnOf (runtimeId : String) (op : OperationRow) : Prop where
  operation : op.request.context.operation = .turn
  source : op.request.sourceId = runtimeId
  ordinary : op.request.exclusiveRoot = false

/-- What an operation on an existing session was admitted with: the session it names is its
source, and its binding is of its Root. -/
structure Placed (s : Db) (op : OperationRow) : Prop where
  source : op.request.context.sourceRuntimeId = some op.request.sourceId
  root : ∃ row, s.bindings.get? op.admission.binding.bindingId = some row ∧
    row.rootId = op.request.rootId

/-- The columns of a session are those of its body. -/
structure JointSessionRow.Agrees (row : JointSessionRow) : Prop where
  status : row.status = row.body.status
  updatedAtMs : row.updatedAtMs = row.body.updatedAtMs
  tenantId : row.tenantId = row.body.tenantId
  binding : row.body.executionBacking.joint.map (·.bindingId) = some row.bindingId

/-- The turn has not ended. -/
structure OpenTurn (s : Db) (runtimeId turnId : String) (turn : TurnRow) : Prop where
  stored : s.turns.get? (runtimeId, turnId) = some turn
  unsettled : turn.terminal = none

/-- **Coherence of turns**: turns, their operations, their fences and their sessions agree. -/
structure TurnsAgree (s : Db) : Prop where
  owner : ∀ runtimeId turnId turn, s.turns.get? (runtimeId, turnId) = some turn →
    ∃ op, s.operations.get? turn.intentId = some op ∧ IsTurnOf runtimeId op
  recorded : ∀ id op, s.operations.get? id = some op → op.request.context.operation = .turn →
    ∃ turnId turn, s.turns.get? (op.request.sourceId, turnId) = some turn ∧ turn.intentId = id
  placed : ∀ id op, s.operations.get? id = some op →
    op.request.context.operation = .turn ∨ op.request.context.operation = .close → Placed s op
  intents : ∀ key key' turn turn', s.turns.get? key = some turn → s.turns.get? key' = some turn' →
    turn.intentId = turn'.intentId → key = key'
  requests : ∀ runtimeId turnId turnId' turn turn' request,
    s.turns.get? (runtimeId, turnId) = some turn → s.turns.get? (runtimeId, turnId') = some turn' →
    turn.clientRequestId = some request → turn'.clientRequestId = some request → turnId = turnId'
  fenced : ∀ runtimeId turnId turn, s.turns.get? (runtimeId, turnId) = some turn →
    (turn.terminal = none ↔ Holds s.ledger.fences (.source, runtimeId) turn.intentId)
  session : ∀ runtimeId turnId turn, OpenTurn s runtimeId turnId turn →
    ∃ row, s.jointSessions.get? runtimeId = some row ∧
      (row.status = .running ∨ row.status = .failed)
  reference : ∀ runtimeId turnId turn op, OpenTurn s runtimeId turnId turn →
    s.operations.get? turn.intentId = some op →
    s.refs.get? (.session, runtimeId) = some op.admission.binding.bindingId
  running : ∀ runtimeId row, s.jointSessions.get? runtimeId = some row →
    row.status = .running → ∃ turnId turn, OpenTurn s runtimeId turnId turn
  columns : ∀ runtimeId row, s.jointSessions.get? runtimeId = some row → row.Agrees
  closed : ∀ runtimeId row, s.jointSessions.get? runtimeId = some row → row.status = .closed →
    s.refs.get? (.session, runtimeId) = none

theorem TurnsAgree.empty : TurnsAgree Db.empty where
  owner := by simp [Db.empty]
  recorded := by simp [Db.empty]
  placed := by simp [Db.empty]
  intents := by simp [Db.empty]
  requests := by simp [Db.empty]
  fenced := by simp [Db.empty]
  session := fun _ _ _ hopen => absurd hopen.stored (by simp [Db.empty])
  reference := fun _ _ _ _ hopen => absurd hopen.stored (by simp [Db.empty])
  running := by simp [Db.empty]
  columns := by simp [Db.empty]
  closed := by simp [Db.empty]

theorem IsTurnOf.fenceOf (h : IsTurnOf runtimeId op) :
    fenceOf op.request = (.source, runtimeId) := by
  simp [Ledger.fenceOf, h.ordinary, h.source]

theorem IsTurnOf.continues (h : IsTurnOf runtimeId op) (hreq : op'.request = op.request) :
    IsTurnOf runtimeId op' where
  operation := hreq ▸ h.operation
  source := hreq ▸ h.source
  ordinary := hreq ▸ h.ordinary

/-- **A session has one open turn** at most. -/
theorem TurnsAgree.open_unique (agree : TurnsAgree s) {turnId'}
    (hopen : OpenTurn s runtimeId turnId turn) (hopen' : OpenTurn s runtimeId turnId' turn') :
    turnId = turnId' ∧ turn = turn' := by
  have hholds := (agree.fenced _ _ turn hopen.stored).1 hopen.unsettled
  have hholds' := (agree.fenced _ _ turn' hopen'.stored).1 hopen'.unsettled
  have hkey := agree.intents _ _ turn turn' hopen.stored hopen'.stored (hholds.unique hholds')
  obtain rfl : turnId = turnId' := (Prod.ext_iff.1 hkey).2
  exact ⟨rfl, Option.mem_unique hopen.stored hopen'.stored⟩

/-- A turn that runs has not ended. -/
theorem TurnsAgree.open_of_runs (agree : TurnsAgree s) (sound : s.ledger.Sound)
    (runs : s.ledger.Runs admission op) (hturn : op.request.context.operation = .turn) :
    ∃ turnId turn, OpenTurn s op.request.sourceId turnId turn ∧
      turn.intentId = admission.intentId := by
  obtain ⟨turnId, turn, hrow, hid⟩ := agree.recorded _ op runs.stored hturn
  obtain ⟨op', hop', hturn_of⟩ := agree.owner _ _ turn hrow
  obtain rfl := Option.mem_unique runs.stored (hid ▸ hop')
  have hholds := runs.holds sound
  rw [hturn_of.fenceOf, ← hid] at hholds
  exact ⟨turnId, turn, ⟨hrow, (agree.fenced _ _ turn hrow).2 hholds⟩, hid⟩

/-- **A session with an open turn is not closed**: the close holds the source fence of the
session, or the fence of its Root. -/
theorem TurnsAgree.not_open_of_close (agree : TurnsAgree s) (guarded : s.ledger.Guarded)
    (runs : s.ledger.Runs admission op) (hclose : op.request.context.operation = .close)
    (hident : op.request.context.sourceRuntimeId = some runtimeId)
    (href : s.refs.get? (.session, runtimeId) = some admission.binding.bindingId) :
    ¬ OpenTurn s runtimeId turnId turn := by
  intro hopen
  obtain ⟨op', hop', hturn_of⟩ := agree.owner _ _ turn hopen.stored
  have hholds := (agree.fenced _ _ turn hopen.stored).1 hopen.unsettled
  have hplaced := agree.placed _ op runs.stored (.inr hclose)
  have hsrc : op.request.sourceId = runtimeId :=
    Option.mem_unique hplaced.source hident
  cases hexcl : op.request.exclusiveRoot with
  | false =>
    have hholds' := runs.holds guarded.sound
    simp only [fenceOf, hexcl, Bool.false_eq_true, if_false, hsrc] at hholds'
    have hid := hholds.unique hholds'
    obtain rfl := Option.mem_unique runs.stored (hid ▸ hop')
    cases hclose.symm.trans hturn_of.operation
  | true =>
    -- both are on the binding of the session, so the Root that the close holds is the turn's
    have hplaced' := agree.placed _ op' hop' (.inl hturn_of.operation)
    have hbind := agree.reference _ _ _ op' hopen hop'
    obtain ⟨row, hrow, hroot⟩ := hplaced.root
    obtain ⟨row', hrow', hroot'⟩ := hplaced'.root
    rw [runs.token] at hrow
    rw [Option.mem_unique hbind href] at hrow'
    cases hrow.symm.trans hrow'
    obtain ⟨root, hroot_fence, -, hheld⟩ := runs.fenced.root
    obtain ⟨source, hsource_fence, hsource_root⟩ :=
      guarded.rooted _ op' hop' hturn_of.ordinary
    rw [hturn_of.source] at hsource_fence
    have hfree := guarded.exclusion _ root hroot_fence (by simp [hheld, hexcl]) _ source
      hsource_fence (hsource_root.trans (hroot'.symm.trans hroot))
    obtain ⟨fence, hfence, hholder⟩ := hholds
    rw [Option.mem_unique hfence hsource_fence, hfree] at hholder
    exact absurd hholder (by simp)

/-! ## Turns stay coherent -/

section

variable {turn : JointTurnIdentity} (admits : Admits config s request s')
  (hturn : request.turn = some turn)
include admits hturn

private theorem newTurn_op :
    ∃ epochs, s'.operations.get? request.context.intentId = some (newOperationRow request epochs) ∧
      IsTurnOf request.sourceId (newOperationRow request epochs) ∧
      Holds s'.ledger.fences (.source, request.sourceId) request.context.intentId := by
  have hvalid := validRequest_of_validateRequest admits.valid
  have hoper := hvalid.turn_iff.1 (by simp [hturn])
  obtain ⟨epochs, hops, hacq⟩ := admits.acquires
  refine ⟨epochs, ?_, ⟨hoper, rfl, hvalid.turn_ordinary hoper⟩, ?_⟩
  · rw [hops, get?_add_self admits.fresh]
  · obtain ⟨⟨source, hsrc, -⟩, hfences⟩ :=
      hacq.ordinary (hvalid.turn_ordinary hoper)
    rw [hfences]
    exact ⟨_, taken_self hsrc _, rfl⟩

/-- A turn that a call admits has an operation and a client request of its own. -/
private theorem newTurn_distinct {old} (hold : s.turns.get? key = some old) :
    old.intentId ≠ request.context.intentId ∧ ∀ name, turn.clientRequestId = some name →
      key.1 = request.sourceId → old.clientRequestId ≠ some name := by
  have hdist := Table.any_eq_false_iff.1 (admits.turn turn hturn).distinct key old hold
  simp only [Bool.or_eq_false_iff, Bool.and_eq_false_imp, decide_eq_false_iff_not,
    Bool.and_eq_true, decide_eq_true_eq] at hdist
  refine ⟨hdist.1, fun name hname hkey => ?_⟩
  rw [← hname]
  exact hdist.2 ⟨by simp [hname], hkey⟩

/-- A call admits one turn. -/
private theorem newTurn_unique {request' turn'}
    (admits' : Admits config s request' s') (hturn' : request'.turn = some turn') :
    (request.sourceId, turn.turnId) = (request'.sourceId, turn'.turnId) := by
  have hfirst := admits.turn turn hturn
  have hsecond := admits'.turn turn' hturn'
  have hrow : s'.turns.get? (request.sourceId, turn.turnId) = some (newTurnRow request turn) := by
    rw [hfirst.turns, get?_add_self hfirst.free]
  rw [hsecond.turns, get?_add_of_free hsecond.free, hfirst.free] at hrow
  by_contra hne
  rw [if_neg hne] at hrow
  exact absurd hrow (by simp)

end

private theorem ended_turnSettled (hrow : s.turns.get? key = some turn)
    (hid : turn.intentId = admission.intentId)
    (hrow' : (s.turnSettled op admission terminal session).turns.get? key = some turn') :
    turn' = { turn with terminal := some terminal } := by
  rw [turnSettled_turn, hrow, Option.map_some, if_pos hid, Option.some.injEq] at hrow'
  exact hrow'.symm

/-- A turn that is open after a call was open before, or the call admitted it. -/
private theorem open_origin (heff : Effect config s call s')
    (hopen : OpenTurn s' runtimeId turnId turn) :
    OpenTurn s runtimeId turnId turn ∨ NewTurn config s s' (runtimeId, turnId) turn := by
  rcases heff.turns.origin hopen.stored with ⟨-, hnew⟩ | ⟨old, hrow, hchg⟩
  · exact .inr hnew
  · cases hchg with
    | same => exact .inl ⟨hrow, hopen.unsettled⟩
    | settled => exact absurd hopen.unsettled (by simp)

section Step

variable {event : Event} (agree : TurnsAgree s) (heff : Effect config s call s')
  (hstep : Step s.ledger event s'.ledger) (guarded : s.ledger.Guarded)
  (coherent : s.ledger.Coherent)
include agree heff

include hstep guarded in
private theorem owner_step (hrow' : s'.turns.get? (runtimeId, turnId) = some turn') :
    ∃ op, s'.operations.get? turn'.intentId = some op ∧ IsTurnOf runtimeId op := by
  rcases heff.turns.origin hrow' with ⟨-, ⟨hadm, hturn, hkey⟩⟩ | ⟨turn, hrow, hchg⟩
  · obtain ⟨epochs, hop, hturn_of, -⟩ := newTurn_op hadm hturn
    obtain ⟨rfl, -⟩ := Prod.ext_iff.1 hkey
    exact ⟨_, hop, hturn_of⟩
  · obtain ⟨op, hop, hturn_of⟩ := agree.owner _ _ turn hrow
    obtain ⟨op', hop', hcont, -⟩ := (hstep.operations guarded.sound).stays hop
    exact ⟨op', hchg.identity.1 ▸ hop', hturn_of.continues hcont.request⟩

include hstep guarded in
private theorem recorded_step (hop' : s'.operations.get? id = some op')
    (hturn : op'.request.context.operation = .turn) :
    ∃ turnId turn, s'.turns.get? (op'.request.sourceId, turnId) = some turn ∧
      turn.intentId = id := by
  rcases (hstep.operations guarded.sound).origin hop' with ⟨hnone, -⟩ | ⟨op, hop, hcont, -⟩
  · obtain ⟨request, epochs, hadm, rfl, rfl⟩ :=
      heff.operation_new hnone hop' (by simp [hturn, Operation.isHost])
    obtain ⟨turn, hsome⟩ := Option.isSome_iff_exists.1
      ((validRequest_of_validateRequest hadm.valid).turn_iff.2 hturn)
    have hadmits_turn := hadm.turn turn hsome
    refine ⟨turn.turnId, newTurnRow request turn, ?_, rfl⟩
    show s'.turns.get? (request.sourceId, turn.turnId) = _
    rw [hadmits_turn.turns, get?_add_self hadmits_turn.free]
  · rw [hcont.request] at hturn ⊢
    obtain ⟨turnId, turn, hrow, hid⟩ := agree.recorded id op hop hturn
    obtain ⟨turn', hrow', hchg⟩ := heff.turns.stays hrow
    exact ⟨turnId, turn', hrow', hchg.identity.1.trans hid⟩

include hstep guarded in
private theorem placed_step (hop' : s'.operations.get? id = some op')
    (hkind : op'.request.context.operation = .turn ∨ op'.request.context.operation = .close) :
    Placed s' op' := by
  rcases (hstep.operations guarded.sound).origin hop' with ⟨hnone, -⟩ | ⟨op, hop, hcont, -⟩
  · have hord : op'.request.context.operation.isHost = false ∧
        op'.request.context.operation.creates = false := by
      rcases hkind with hkind | hkind <;> simp [hkind, Operation.isHost, Operation.creates]
    obtain ⟨request, epochs, hadm, rfl, rfl⟩ := heff.operation_new hnone hop' hord.1
    have hvalid := validRequest_of_validateRequest hadm.valid
    obtain ⟨row, hrow, -, -, hroot, -⟩ := hadm.existing hord.2
    obtain ⟨row', hrow', hmove⟩ := hstep.bindings.stays hrow
    refine ⟨?_, row', hrow', hmove.continues.root.trans hroot⟩
    have hsrc := hvalid.source_eq
    rcases hkind with hkind | hkind <;>
    · change request.context.operation = _ at hkind
      rw [hkind] at hsrc
      exact hsrc
  · rw [hcont.request] at hkind
    have hplaced := agree.placed id op hop hkind
    obtain ⟨row, hrow, hroot⟩ := hplaced.root
    obtain ⟨row', hrow', hmove⟩ := hstep.bindings.stays hrow
    refine ⟨by rw [hcont.request, hplaced.source], row', ?_, ?_⟩
    · rw [hcont.binding]
      exact hrow'
    · rw [hmove.continues.root, hroot, hcont.request]

private theorem intents_step {key'} (hrow : s'.turns.get? key = some turn)
    (hrow' : s'.turns.get? key' = some turn') (heq : turn.intentId = turn'.intentId) :
    key = key' := by
  rcases heff.turns.origin hrow with ⟨-, ⟨hadm, hturn, hkey⟩⟩ | ⟨old, hold, hchg⟩ <;>
  rcases heff.turns.origin hrow' with ⟨-, ⟨hadm', hturn', hkey'⟩⟩ | ⟨old', hold', hchg'⟩
  · rw [hkey, hkey']
    exact newTurn_unique hadm hturn hadm' hturn'
  · exact absurd (hchg'.identity.1.symm.trans heq.symm) (newTurn_distinct hadm hturn hold').1
  · exact absurd (hchg.identity.1.symm.trans heq) (newTurn_distinct hadm' hturn' hold).1
  · exact agree.intents _ _ old old' hold hold'
      (hchg.identity.1.symm.trans (heq.trans hchg'.identity.1))

private theorem requests_step {turnId' request}
    (hrow : s'.turns.get? (runtimeId, turnId) = some turn)
    (hrow' : s'.turns.get? (runtimeId, turnId') = some turn')
    (hreq : turn.clientRequestId = some request)
    (hreq' : turn'.clientRequestId = some request) : turnId = turnId' := by
  rcases heff.turns.origin hrow with ⟨-, ⟨hadm, hturn, hkey⟩⟩ | ⟨old, hold, hchg⟩ <;>
  rcases heff.turns.origin hrow' with ⟨-, ⟨hadm', hturn', hkey'⟩⟩ | ⟨old', hold', hchg'⟩
  · have huniq := newTurn_unique hadm hturn hadm' hturn'
    rw [← hkey, ← hkey'] at huniq
    exact (Prod.ext_iff.1 huniq).2
  · exact absurd (hchg'.identity.2.symm.trans hreq')
      ((newTurn_distinct hadm hturn hold').2 request hreq (Prod.ext_iff.1 hkey).1)
  · exact absurd (hchg.identity.2.symm.trans hreq)
      ((newTurn_distinct hadm' hturn' hold).2 request hreq' (Prod.ext_iff.1 hkey').1)
  · exact agree.requests _ _ _ old old' request hold hold'
      (hchg.identity.2.symm.trans hreq) (hchg'.identity.2.symm.trans hreq')

include guarded coherent in
private theorem fenced_step (hrow' : s'.turns.get? (runtimeId, turnId) = some turn') :
    turn'.terminal = none ↔ Holds s'.ledger.fences (.source, runtimeId) turn'.intentId := by
  rcases heff.turns.origin hrow' with ⟨-, ⟨hadm, hturn, hkey⟩⟩ | ⟨turn, hrow, hchg⟩
  · obtain ⟨-, -, -, hholds⟩ := newTurn_op hadm hturn
    obtain ⟨rfl, -⟩ := Prod.ext_iff.1 hkey
    exact iff_of_true rfl hholds
  · cases hchg with
    | settled _ _ id_eq settled =>
      subst settled
      exact iff_of_false (by simp) (id_eq ▸ not_holds_turnSettled)
    | same =>
      obtain ⟨op, hop, hturn_of⟩ := agree.owner _ _ turn' hrow
      rcases heff.turn_holds guarded.sound coherent hop hturn_of.operation with
        hkept | ⟨admission, terminal, session, hid, rfl⟩
      · rw [hkept.holds_iff]
        exact agree.fenced _ _ turn' hrow
      · rw [ended_turnSettled hrow hid.symm hrow']
        exact iff_of_false (by simp) (hid ▸ not_holds_turnSettled)

include guarded in
private theorem session_step (hopen : OpenTurn s' runtimeId turnId turn) :
    ∃ row, s'.jointSessions.get? runtimeId = some row ∧
      (row.status = .running ∨ row.status = .failed) := by
  rcases open_origin heff hopen with hold | @⟨_, new, hadm, hturn, hkey⟩
  · obtain ⟨row, hrow, hstat⟩ := agree.session _ _ _ hold
    obtain ⟨row', hrow', hchg⟩ := heff.jointSessions.stays hrow
    refine ⟨row', hrow', ?_⟩
    cases hchg with
    | same => exact hstat
    | begun => exact .inl rfl
    | invalidated => exact .inr rfl
    | ended runs hturn id_eq settled =>
      -- the session has one open turn, and it is the one that ended
      obtain ⟨_, _, hopen', hid⟩ := agree.open_of_runs guarded.sound runs.toRuns hturn
      obtain ⟨rfl, rfl⟩ := agree.open_unique hold (id_eq ▸ hopen')
      subst settled
      rw [ended_turnSettled hold.stored hid hopen.stored] at hold
      exact absurd hold.unsettled (by simp)
    | closed runs close identity owned =>
      exact absurd hold (agree.not_open_of_close guarded runs.toRuns close identity owned)
  · obtain ⟨session, hsession, -, -, hsess⟩ := (hadm.turn new hturn).session
    obtain ⟨rfl, -⟩ := Prod.ext_iff.1 hkey
    rw [hsess, get?_modify, hsession, Option.map_some, if_pos (decide_eq_true rfl)]
    exact ⟨_, rfl, .inl rfl⟩

include hstep guarded in
private theorem reference_step (hopen : OpenTurn s' runtimeId turnId turn)
    (hop' : s'.operations.get? turn.intentId = some op') :
    s'.refs.get? (.session, runtimeId) = some op'.admission.binding.bindingId := by
  rcases open_origin heff hopen with hold | @⟨request, new, hadm, hturn, hkey⟩
  · obtain ⟨op, hop, -⟩ := agree.owner _ _ turn hold.stored
    have href := agree.reference _ _ _ op hold hop
    obtain ⟨op'', hop'', hcont, -⟩ := (hstep.operations guarded.sound).stays hop
    cases hop'.symm.trans hop''
    rcases heff.sessionRef_change with
      hsame | ⟨hnone, -⟩ | ⟨admission, close, hruns, hclose, hid, howned⟩
    · rw [hsame, href, hcont.binding]
    · cases hnone.symm.trans href
    · exact absurd hold (agree.not_open_of_close guarded hruns.toRuns hclose hid howned)
  · have hvalid := validRequest_of_validateRequest hadm.valid
    have hoper := hvalid.turn_iff.1 (by simp [hturn])
    obtain ⟨row, -, -, -, -, -, howns⟩ := hadm.existing (by simp [hoper, Operation.creates])
    have hsrc := hvalid.source_eq
    obtain ⟨epochs, hop, -⟩ := newTurn_op hadm hturn
    cases hop'.symm.trans hop
    obtain ⟨rfl, -⟩ := Prod.ext_iff.1 hkey
    rw [hoper] at hsrc
    change request.context.sourceRuntimeId = _ at hsrc
    simp only [ownsReference, ownedReference, hoper, or_true, if_true, hsrc,
      decide_eq_true_eq] at howns
    rw [hadm.refs]
    cases request.parentBinding with
    | none => exact howns
    | some parent =>
      simp only [Option.elim_some, get?_add, howns]
      rfl

private theorem running_step (hrow' : s'.jointSessions.get? runtimeId = some row')
    (hrunning : row'.status = .running) :
    ∃ turnId turn, OpenTurn s' runtimeId turnId turn := by
  rcases heff.jointSessions.origin hrow' with ⟨-, ⟨⟩⟩ | ⟨row, hrow, hchg⟩
  · exact absurd hrunning (by simp)
  · cases hchg with
    | same =>
      obtain ⟨turnId, turn, hopen⟩ := agree.running _ row' hrow hrunning
      obtain ⟨turn', hturn', hchg⟩ := heff.turns.stays hopen.stored
      cases hchg with
      | same => exact ⟨turnId, turn, hturn', hopen.unsettled⟩
      | @settled _ terminal _ _ runs _ id_eq settled =>
        -- the settlement of the open turn takes the session out of `running`
        obtain ⟨op', hop', hturn_of⟩ := agree.owner _ _ turn hopen.stored
        obtain rfl := Option.mem_unique runs.stored (id_eq ▸ hop')
        subst settled
        simp only [Db.turnSettled, get?_modify, hrow, Option.map_some, hturn_of.source,
          decide_true, if_true, Option.some.injEq] at hrow'
        rw [← hrow'] at hrunning
        exact absurd hrunning terminal.status_eq.1
    | @begun request turn admits carries id_eq =>
      have hadm := admits.turn turn carries
      refine ⟨turn.turnId, newTurnRow request turn, ?_, rfl⟩
      rw [id_eq, hadm.turns, get?_add_self hadm.free]
    | @ended admission terminal => exact absurd hrunning terminal.status_eq.1
    | invalidated => exact absurd hrunning (by simp)
    | closed => exact absurd hrunning (by simp [JointSessionRow.closed])

private theorem columns_step (hrow' : s'.jointSessions.get? runtimeId = some row') :
    row'.Agrees := by
  rcases heff.jointSessions.origin hrow' with ⟨-, ⟨hbacking, hidle⟩⟩ | ⟨row, hrow, hchg⟩
  · exact ⟨hidle.symm, rfl, rfl, by simp [hbacking]⟩
  · have hagr := agree.columns _ row hrow
    cases hchg with
    | same => exact hagr
    | begun | invalidated => exact ⟨rfl, hagr.updatedAtMs, hagr.tenantId, hagr.binding⟩
    | ended | closed => exact ⟨rfl, rfl, hagr.tenantId, hagr.binding⟩

private theorem closed_step (hrow' : s'.jointSessions.get? runtimeId = some row')
    (hclosed : row'.status = .closed) :
    s'.refs.get? (.session, runtimeId) = none := by
  rcases heff.jointSessions.origin hrow' with ⟨-, ⟨⟩⟩ | ⟨row, hrow, hchg⟩
  · exact absurd hclosed (by simp)
  · cases hchg with
    | same =>
      have hunref := agree.closed _ row' hrow hclosed
      rcases heff.sessionRef_change with hsame | ⟨-, hnone⟩ | ⟨_, _, -, -, -, howned⟩
      · exact hsame.trans hunref
      · cases hnone.symm.trans hrow
      · cases hunref.symm.trans howned
    | begun | invalidated => exact absurd hclosed (by simp)
    | @ended admission terminal => exact absurd hclosed terminal.status_eq.2
    | closed _ _ _ _ dropped => exact dropped

include hstep guarded coherent in
/-- **Step**: a call keeps turns coherent. -/
theorem TurnsAgree.step : TurnsAgree s' where
  owner := fun _ _ _ => owner_step agree heff hstep guarded
  recorded := fun _ _ => recorded_step agree heff hstep guarded
  placed := fun _ _ => placed_step agree heff hstep guarded
  intents := fun _ _ _ _ => intents_step agree heff
  requests := fun _ _ _ _ _ _ => requests_step agree heff
  fenced := fun _ _ _ => fenced_step agree heff guarded coherent
  session := fun _ _ _ => session_step agree heff guarded
  reference := fun _ _ _ _ => reference_step agree heff hstep guarded
  running := fun _ _ => running_step agree heff
  columns := fun _ _ => columns_step agree heff
  closed := fun _ _ => closed_step agree heff

end Step

/-- **Run**: turns are coherent in every database that calls lead to. -/
theorem turnsAgree_of_storeReachable (h : StoreReachable config s) : TurnsAgree s := by
  refine h.induct .empty ?_
  intro s event s' hreach agree hcom
  have hreached := ledger_reached hreach
  exact agree.step (effect_of_commit hcom) (commit_refines hcom) hreached.guarded
    hreached.coherent

/-! ## What has ended stays -/

section

variable (agree : TurnsAgree s) (sound : s.ledger.Sound) (heff : Effect config s call s')
include agree sound heff

/-- The terminal of a turn is final. -/
theorem TurnsAgree.terminal_stays (hrow : s.turns.get? key = some turn)
    (hended : turn.terminal ≠ none) :
    s'.turns.get? key = some turn := by
  obtain ⟨turn', hrow', hchg⟩ := heff.turns.stays hrow
  cases hchg with
  | same => exact hrow'
  | settled runs hturn id_eq =>
    obtain ⟨turnId, turn', hopen, hid⟩ := agree.open_of_runs sound runs.toRuns hturn
    obtain rfl := agree.intents _ _ turn turn' hrow hopen.stored (id_eq.trans hid.symm)
    cases hrow.symm.trans hopen.stored
    exact absurd hopen.unsettled hended

/-- A closed session is final. -/
theorem TurnsAgree.closed_stays
    (hrow : s.jointSessions.get? runtimeId = some row) (hclosed : row.status = .closed) :
    s'.jointSessions.get? runtimeId = some row := by
  have hopen : ∀ {admission : JointAdmission} {op : OperationRow}, s.ledger.Runs admission op →
      op.request.context.operation = .turn → runtimeId ≠ op.request.sourceId := by
    rintro admission op hruns hturn rfl
    obtain ⟨turnId, turn, hopen, -⟩ := agree.open_of_runs sound hruns hturn
    obtain ⟨row', hrow', hstat⟩ := agree.session _ _ _ hopen
    rw [Option.mem_unique hrow' hrow, hclosed] at hstat
    exact absurd hstat (by simp)
  obtain ⟨row', hrow', hchg⟩ := heff.jointSessions.stays hrow
  cases hchg with
  | same => exact hrow'
  | begun _ _ _ available =>
    rw [← (agree.columns _ row hrow).status, hclosed] at available
    exact absurd available (by simp)
  | ended runs turn id_eq => exact absurd id_eq (hopen runs.toRuns turn)
  | invalidated runs turn id_eq => exact absurd id_eq (hopen runs turn)
  | closed _ _ _ owned =>
    exact absurd ((agree.closed _ row hrow hclosed).symm.trans owned) (by simp)

end

/-- What has ended before has not changed. -/
private def EndedStay (s s' : Db) : Prop :=
  (∀ key turn, s.turns.get? key = some turn → turn.terminal ≠ none →
    s'.turns.get? key = some turn) ∧
  ∀ runtimeId row, s.jointSessions.get? runtimeId = some row → row.status = .closed →
    s'.jointSessions.get? runtimeId = some row

private theorem ended_turns_of_run {tr} (h : StoreReachable config s)
    (hrun : Run (Commit config) s tr s') : EndedStay s s' := by
  refine h.run_invariant hrun (P := EndedStay s)
    ⟨fun _ _ hrow _ => hrow, fun _ _ hrow _ => hrow⟩ ?_
  rintro t event t' hreach ⟨hturns, hsess⟩ hcom
  have agree := turnsAgree_of_storeReachable hreach
  have sound := (ledger_reached hreach).guarded.sound
  have heff := effect_of_commit hcom
  exact ⟨fun key turn hrow hended =>
      agree.terminal_stays sound heff (hturns key turn hrow hended) hended,
    fun runtimeId row hrow hclosed =>
      agree.closed_stays sound heff (hsess runtimeId row hrow hclosed) hclosed⟩

/-- **Joint turns**: a session has at most one turn without a terminal, whose operation holds
the source fence of the session; a session that is running has exactly one; a client request
names one turn; the columns of a session are those of its body; and from then on no call changes
a terminal that was recorded or a session that was closed. -/
theorem joint_turns_coherent (h : StoreReachable config s) :
    (∀ runtimeId turnId turnId' turn turn', s.turns.get? (runtimeId, turnId) = some turn →
      s.turns.get? (runtimeId, turnId') = some turn' → turn.terminal = none →
      turn'.terminal = none → turnId = turnId') ∧
    (∀ runtimeId turnId turn, s.turns.get? (runtimeId, turnId) = some turn →
      turn.terminal = none → ∃ op fence, s.operations.get? turn.intentId = some op ∧
        s.fences.get? (.source, runtimeId) = some fence ∧ fence.holder = some turn.intentId) ∧
    (∀ runtimeId row, s.jointSessions.get? runtimeId = some row → row.status = .running →
      ∃! turnId, ∃ turn, s.turns.get? (runtimeId, turnId) = some turn ∧ turn.terminal = none) ∧
    (∀ runtimeId turnId turnId' turn turn' request, s.turns.get? (runtimeId, turnId) = some turn →
      s.turns.get? (runtimeId, turnId') = some turn' → turn.clientRequestId = some request →
      turn'.clientRequestId = some request → turnId = turnId') ∧
    (∀ runtimeId row, s.jointSessions.get? runtimeId = some row →
      row.status = row.body.status ∧ row.updatedAtMs = row.body.updatedAtMs ∧
        row.tenantId = row.body.tenantId ∧
        row.body.executionBacking.joint.map (·.bindingId) = some row.bindingId) ∧
    ∀ tr s', Run (Commit config) s tr s' →
      (∀ key turn terminal, s.turns.get? key = some turn → turn.terminal = some terminal →
        ∃ turn', s'.turns.get? key = some turn' ∧ turn'.terminal = some terminal) ∧
      ∀ runtimeId row, s.jointSessions.get? runtimeId = some row → row.status = .closed →
        s'.jointSessions.get? runtimeId = some row := by
  have agree := turnsAgree_of_storeReachable h
  refine ⟨?_, ?_, ?_, agree.requests, ?_, ?_⟩
  · intro runtimeId turnId turnId' turn turn' hrow hrow' hopen hopen'
    exact (agree.open_unique ⟨hrow, hopen⟩ ⟨hrow', hopen'⟩).1
  · intro runtimeId turnId turn hrow hopen
    obtain ⟨op, hop, -⟩ := agree.owner _ _ turn hrow
    obtain ⟨fence, hfence, hholder⟩ := (agree.fenced _ _ turn hrow).1 hopen
    exact ⟨op, fence, hop, hfence, hholder⟩
  · intro runtimeId row hrow hrunning
    obtain ⟨turnId, turn, hopen⟩ := agree.running _ row hrow hrunning
    refine ⟨turnId, ⟨turn, hopen.stored, hopen.unsettled⟩, ?_⟩
    rintro turnId' ⟨turn', hrow', hopen'⟩
    exact (agree.open_unique ⟨hrow', hopen'⟩ hopen).1
  · intro runtimeId row hrow
    have hagr := agree.columns _ row hrow
    exact ⟨hagr.status, hagr.updatedAtMs, hagr.tenantId, hagr.binding⟩
  · intro tr s' hrun
    obtain ⟨hturns, hsess⟩ := ended_turns_of_run h hrun
    refine ⟨fun key turn terminal hrow hterm => ⟨turn, ?_, hterm⟩, hsess⟩
    exact hturns key turn hrow (by simp [hterm])

/-- A message to the session. -/
def turnRequest : JointPrepareRequest :=
  { openRequest with
    context := { openRequest.context with
      intentId := "turn"
      operation := .turn
      sourceRuntimeId := some "session"
      targetRuntimeId := none }
    reservations := []
    native :=
      [{ step := "send"
         operationId := "00000000-0000-0000-0000-000000000003"
         digest := "0000000000000000000000000000000000000000000000000000000000000000"
         method := "message.send"
         params := .null
         effect := .mutate
         compensation := false }]
    turn := some
      { turnId := "first"
        clientRequestId := some "request"
        inputDigest := "0000000000000000000000000000000000000000000000000000000000000000" } }

/-- While the message is answered, the session runs exactly one turn. -/
theorem joint_turns_of_message :
    let s := execAll smallConfig (openCalls ++ [.prepareJointOperation turnRequest]) Db.empty
    (s.jointSessions.get? "session").any (fun row => row.status = .running) = true ∧
    ∃! turnId, ∃ turn, s.turns.get? ("session", turnId) = some turn ∧ turn.terminal = none := by
  intro s
  have hrunning : (s.jointSessions.get? "session").any (fun row => row.status = .running) =
      true := by decide +kernel
  obtain ⟨row, hrow, hstat⟩ := (Option.any_eq_true _ _).1 hrunning
  exact ⟨hrunning, (joint_turns_coherent (storeReachable_execAll smallConfig _)).2.2.1 _ row hrow
    (of_decide_eq_true hstat)⟩

end XGovernor.Joint
