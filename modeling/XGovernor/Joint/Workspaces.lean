import XGovernor.Joint.Dispatch
import XGovernor.Joint.Turns

/-!
# Workspaces

The workspace of a binding is dirty from the time a turn or a Host operation is told to send a
native step until the operation settles.  The mark is a column of a row that the registration of
a Host target inserts, so it says nothing about a turn that was sent before.
-/

namespace XGovernor.Joint.Ledger

open Domain Lib Function Table

variable {L L' : Ledger} {event : Event}
variable {id bindingId : String}

/-- The native step has a terminal outcome. -/
def Resolved (L : Ledger) (key : String × String) : Prop :=
  ∃ row outcome, L.steps key = some row ∧ row.outcome = some outcome ∧
    outcome.state.isTerminal = true

/-- **Resolved steps stay resolved**: no step takes a terminal outcome back. -/
theorem Step.resolved_stays (h : Step L event L') {key}
    (hresolved : L.Resolved key) : L'.Resolved key := by
  obtain ⟨row, outcome, hrow, hout, hterm⟩ := hresolved
  obtain ⟨row', hrow', hmove⟩ := h.steps.stays hrow
  cases hmove with
  | same => exact ⟨row, outcome, hrow', hout, hterm⟩
  | reported _ reports =>
    refine ⟨_, _, hrow', rfl, ?_⟩
    cases reports with
    | sent unsent => cases unsent.symm.trans hout
    | ordinary _ _ unsettled => cases (unsettled _ hout).symm.trans hterm
    | host _ _ immutable => exact (immutable _ hout hterm).1 ▸ hterm

/-- Every native step of a Host operation is stored. -/
def NativesStored (L : Ledger) : Prop :=
  ∀ id h n, L.hosts id = some h → n ∈ h.prepared.native → ∃ row, L.steps (id, n.step) = some row

/-- A step of a Host operation that is granted is sent. -/
theorem Step.sent_of_hostDispatch {index} (h : Step L (.hostDispatch id index) L')
    {j n row} (hsto : L.hosts id = some j)
    (hread : j.prepared.request.isRead = false) (hn : j.prepared.native[index]? = some n)
    (hrow : L.steps (id, n.step) = some row) :
    L'.Sent (id, n.step) := by
  cases h with
  | claimHost _ runs =>
    cases runs.journal.stored.symm.trans hsto
    by_cases hsent : row.outcome = none
    · exact ⟨{ row with outcome := some sentUnknown },
        by simp [hread, claimedStep, hn, hrow, hsent], by simp⟩
    · exact ⟨row, by simp [hread, claimedStep, hn, hrow, hsent], hsent⟩

/-- Only an operation that was admitted is told to send. -/
theorem Step.stored_of_dispatch (h : (∃ name, Step L (.dispatch id name) L') ∨
    ∃ index, Step L (.hostDispatch id index) L') : ∃ op, L.operations id = some op := by
  rcases h with ⟨name, h⟩ | ⟨index, h⟩
  · cases h with
    | dispatch runs => exact ⟨_, runs.stored⟩
  · cases h with
    | claimHost _ runs => exact ⟨_, runs.stored⟩

end XGovernor.Joint.Ledger

namespace XGovernor.Joint

open Domain Lib Ledger Table Function

variable {config : StoreConfig} {s s' : Db} {call : Call} {id bindingId name : String}
  {tr : List (Db × (Call × Reply))} {event : Call × Reply} {id' : String}

/-! ## The session of a binding -/

/-- The session of a binding is the one that the operation which created the binding was asked
for. -/
def SessionsCreated (s : Db) : Prop :=
  ∀ runtimeId row, s.jointSessions.get? runtimeId = some row →
    ∃ binding op, s.bindings.get? row.bindingId = some binding ∧
      s.operations.get? binding.creationIntent = some op ∧
      createdIdentity op.request.context = (.session, runtimeId)

/-- A binding has one session at most. -/
theorem SessionsCreated.unique (created : SessionsCreated s)
    {row row'} (hrow : s.jointSessions.get? id = some row)
    (hrow' : s.jointSessions.get? id' = some row') (hbind : row.bindingId = row'.bindingId) :
    id = id' := by
  obtain ⟨binding, op, hbound, hop, hident⟩ := created id row hrow
  obtain ⟨binding', op', hbound', hop', hident'⟩ := created id' row' hrow'
  obtain rfl := Option.mem_unique hbound (hbind ▸ hbound')
  cases hop.symm.trans hop'
  exact (Prod.ext_iff.1 (hident.symm.trans hident')).2

theorem SessionsCreated.step {event} (created : SessionsCreated s)
    (heff : Effect config s call s') (hstep : Step s.ledger event s'.ledger)
    (sound : s.ledger.Sound) (coherent' : s'.ledger.Coherent) : SessionsCreated s' := by
  intro id row' hrow'
  rcases heff.jointSessions.origin hrow' with
    ⟨-, ⟨-, -, -, hruns, hcreates, hident⟩⟩ | ⟨row, hrow, hchg⟩
  · obtain ⟨op', hop', hcont, -⟩ := (hstep.operations sound).stays hruns.stored
    obtain ⟨binding, hbound, hcrea, -⟩ := coherent'.createdBy hop'
      (by rw [hcont.request, hcreates])
    rw [hcont.binding, hruns.token] at hbound
    exact ⟨binding, op', hbound, hcrea ▸ hop', by rw [hcont.request, hident]⟩
  · obtain ⟨binding, op, hbound, hop, hident⟩ := created id row hrow
    obtain ⟨binding', hbound', hmove⟩ := hstep.bindings.stays hbound
    obtain ⟨op', hop', hcontinues_op, -⟩ := (hstep.operations sound).stays hop
    refine ⟨binding', op', hchg.binding ▸ hbound', ?_, by rw [hcontinues_op.request, hident]⟩
    rw [hmove.continues.creation]
    exact hop'

/-! ## Operations on a workspace -/

/-- Turns and Host operations work in the workspace of their binding. -/
def UsesWorkspace (op : OperationRow) : Prop :=
  op.request.context.operation = .turn ∨ op.request.context.operation.isHost = true

/-- The operation is fenced by the session of its binding. -/
structure SourceBound (s : Db) (op : OperationRow) : Prop where
  ordinary : op.request.exclusiveRoot = false
  session : ∃ row, s.jointSessions.get? op.request.sourceId = some row ∧
    row.bindingId = op.admission.binding.bindingId

def SourcesBound (s : Db) : Prop :=
  ∀ id op, s.operations.get? id = some op → UsesWorkspace op → SourceBound s op

/-- The session of a live target has its binding. -/
theorem session_of_targetLive {t} (h : targetLive s t = true) :
    ∃ row binding, s.jointSessions.get? t.publicRuntimeId = some row ∧
      row.bindingId = t.liveBinding.bindingId ∧
      s.bindings.get? t.liveBinding.bindingId = some binding ∧
      binding.generation = t.bindingGeneration := by
  simp only [targetLive, Option.any_eq_true, Bool.and_eq_true, decide_eq_true_eq] at h
  obtain ⟨row, hrow, binding, hbound, _, -, _, -, _, -, h⟩ := h
  obtain ⟨⟨⟨⟨⟨⟨⟨⟨⟨⟨⟨⟨⟨hbind, -⟩, hgen⟩, -⟩, -⟩, -⟩, -⟩, -⟩, -⟩, -⟩, -⟩, -⟩, -⟩, -⟩ := h
  exact ⟨row, binding, hrow, hbind, hbind ▸ hbound, hgen⟩

theorem SourcesBound.step {event} (bound : SourcesBound s)
    (heff : Effect config s call s') (hstep : Step s.ledger event s'.ledger)
    (sound : s.ledger.Sound) : SourcesBound s' := by
  -- what was bound stays bound
  have hkeep : ∀ {op op' : OperationRow}, SourceBound s op →
      op'.request.exclusiveRoot = op.request.exclusiveRoot →
      op'.request.sourceId = op.request.sourceId →
      op'.admission.binding = op.admission.binding → SourceBound s' op' := by
    intro op op' hbound hexcl hsrc hbind
    obtain ⟨row, hrow, hsame⟩ := hbound.session
    obtain ⟨row', hrow', hchg⟩ := heff.jointSessions.stays hrow
    refine ⟨hexcl.trans hbound.ordinary, row', hsrc ▸ hrow', ?_⟩
    rw [hchg.binding, hsame, hbind]
  intro id op' hop' huses
  rcases (hstep.operations sound).origin hop' with ⟨hnone, -⟩ | ⟨op, hop, hcont, -⟩
  · rcases heff.operation_added hnone hop' with ⟨request, epochs, hadm, rfl, rfl⟩ |
      ⟨prepared, epochs, hadm, rfl⟩ | ⟨access, h, op, hruns, rfl⟩
    -- three ways to be added: a turn, a Host operation, and a cleanup with the source of its parent
    · have hvalid := validRequest_of_validateRequest hadm.valid
      have hturn : request.context.operation = .turn :=
        huses.resolve_right fun hhost =>
          Bool.noConfusion (hvalid.operation_known.1.symm.trans hhost)
      obtain ⟨turn, hsome⟩ := Option.isSome_iff_exists.1 (hvalid.turn_iff.2 hturn)
      obtain ⟨session, hrow, hbind, -⟩ := (hadm.turn turn hsome).session
      obtain ⟨row', hrow', hchg⟩ := heff.jointSessions.stays hrow
      exact ⟨hvalid.turn_ordinary hturn, row', hrow', hchg.binding.trans hbind⟩
    · obtain ⟨row, _, hrow, hbind, -⟩ := session_of_targetLive hadm.live
      obtain ⟨row', hrow', hchg⟩ := heff.jointSessions.stays hrow
      exact ⟨rfl, row', hrow', hchg.binding.trans hbind⟩
    · have hhost := (sound.journal_of hruns.journal.stored hruns.stored).host
      refine hkeep (bound _ op hruns.stored (.inr hhost)) rfl rfl ?_
      rw [hruns.token]
      rfl
  · have huses : UsesWorkspace op := by
      unfold UsesWorkspace at huses ⊢
      rwa [hcont.request] at huses
    exact hkeep (bound id op hop huses) (by rw [hcont.request]) (by rw [hcont.request])
      hcont.binding

/-- What the bindings of workspaces are for. -/
structure WorkspacesBound (s : Db) : Prop where
  created : SessionsCreated s
  bound : SourcesBound s
  stored : s.ledger.NativesStored

theorem WorkspacesBound.empty : WorkspacesBound Db.empty where
  created := by simp [SessionsCreated, Db.empty]
  bound := by simp [SourcesBound, Db.empty]
  stored := by simp [NativesStored, Db.ledger, Db.empty]

theorem workspacesBound_of_storeReachable (h : StoreReachable config s) : WorkspacesBound s := by
  refine h.induct .empty ?_
  intro s event s' hreach bound hcom
  have heff := effect_of_commit hcom
  have hstep := commit_refines hcom
  have sound := (ledger_reached hreach).guarded.sound
  have coherent' := (ledger_reached (hreach.run (Run.nil.snoc hcom))).coherent
  refine ⟨bound.created.step heff hstep sound coherent', bound.bound.step heff hstep sound,
    fun id j n hsto hn => ?_⟩
  rcases heff.hostIntents.origin hsto with ⟨hnone, -⟩ | ⟨old, hold, hmove⟩
  · exact (hstep.hosts.new hnone hsto).natives n hn
  · obtain ⟨row, hrow⟩ := bound.stored id old n hold (hmove.prepared ▸ hn)
    obtain ⟨row', hrow', -⟩ := hstep.steps.stays hrow
    exact ⟨row', hrow'⟩

/-- Of the operations on one workspace, one holds the fence of its session. -/
theorem WorkspacesBound.holder_unique (bound : WorkspacesBound s)
    {op op'} (hop : s.operations.get? id = some op)
    (hop' : s.operations.get? id' = some op') (huses : UsesWorkspace op)
    (huses' : UsesWorkspace op')
    (hbind : op.admission.binding.bindingId = op'.admission.binding.bindingId)
    (hholds : Holds s.ledger.fences (fenceOf op.request) id)
    (hholds' : Holds s.ledger.fences (fenceOf op'.request) id') : id = id' := by
  obtain ⟨hord, row, hrow, hsame⟩ := bound.bound id op hop huses
  obtain ⟨hord', row', hrow', hsame'⟩ := bound.bound id' op' hop' huses'
  have hsrc : op.request.sourceId = op'.request.sourceId :=
    bound.created.unique hrow hrow' (hsame.trans (hbind.trans hsame'.symm))
  apply hholds.unique
  simpa [fenceOf, hord, hord', hsrc] using hholds'

/-! ## Claimed steps -/

/-- The call was told to send the native step. -/
inductive ClaimsStep (id name : String) : Db × (Call × Reply) → Prop
  | ordinary {s admission native} (intent : admission.intentId = id) :
      ClaimsStep id name (s, (.claimJointNativeSend admission name, .native (some native)))
  | host {s access index h native} (intent : access.admission.intentId = id)
      (journal : s.hostIntents.get? id = some h)
      (listed : h.prepared.native[index]? = some native) (step : native.step = name) :
      ClaimsStep id name (s, (.claimHostStep access index, .bool true))

/-- The operation works on the binding, and was told to send a native step whose outcome is not
terminal. -/
def PendingOn (tr : List (Db × (Call × Reply))) (s : Db) (bindingId id : String) : Prop :=
  ∃ op name row outcome, s.operations.get? id = some op ∧ UsesWorkspace op ∧
    op.admission.binding.bindingId = bindingId ∧ (∃ e ∈ tr, ClaimsStep id name e) ∧
    s.steps.get? (id, name) = some row ∧ row.outcome = some outcome ∧
    outcome.state.isTerminal = false

theorem PendingOn.unresolved (h : PendingOn tr s bindingId id) : s.ledger.Unresolved id := by
  obtain ⟨_, name, row, outcome, -, -, -, -, hrow, hout, hopen⟩ := h
  exact ⟨name, row, outcome, hrow, hout, hopen⟩

/-- A Host operation that has a native step is not a read. -/
theorem Verified.not_read (verified : Verified s) {h : HostIntentV1} {index : Nat}
    {native : JointNativeIntent} (hsto : s.hostIntents.get? id = some h)
    (hlisted : h.prepared.native[index]? = some native) : h.prepared.request.isRead = false := by
  by_contra hread
  have hnil := (native_eq_nil_iff_of_verifyRequest (verified id h hsto)).2
    (by simpa using hread)
  simp [hnil] at hlisted

/-- A native step that was claimed has an outcome. -/
theorem ClaimsStep.sent (bound : WorkspacesBound s) (verified : Verified s)
    (hcom : Commit config s event s') (hclaim : ClaimsStep id name (s, event)) :
    s'.ledger.Sent (id, name) := by
  have hstep := commit_refines hcom
  cases hclaim with
  | ordinary intent =>
    subst intent
    exact (Step.sent_of_dispatch hstep).2
  | @host _ access index h native intent journal listed step =>
    subst intent step
    have hread := verified.not_read journal listed
    obtain ⟨row, hrow⟩ := bound.stored _ h native journal (List.mem_of_getElem? listed)
    exact Step.sent_of_hostDispatch hstep journal hread listed hrow

/-- Only an operation that was admitted is told to send. -/
theorem ClaimsStep.stored (hcom : Commit config s event s')
    (hclaim : ClaimsStep id name (s, event)) :
    ∃ op, s.operations.get? id = some op := by
  have hstep := commit_refines hcom
  cases hclaim with
  | ordinary intent =>
    subst intent
    exact Step.stored_of_dispatch (.inl ⟨name, hstep⟩)
  | @host _ access index _ _ intent =>
    subst intent
    exact Step.stored_of_dispatch (.inr ⟨index, hstep⟩)

/-- A native step that was claimed in a run has an outcome at its end. -/
theorem sent_of_claimed (h : Run (Commit config) Db.empty tr s) {e}
    (he : e ∈ tr) (hclaim : ClaimsStep id name e) : s.ledger.Sent (id, name) := by
  obtain ⟨before, after, t, -, hbef, hcom, hafter⟩ := h.split_of_mem he
  have hreach : StoreReachable config e.1 := ⟨before, hbef⟩
  refine hafter.invariant (P := fun t => t.ledger.Sent (id, name)) ?_ ?_
  · exact hclaim.sent (workspacesBound_of_storeReachable hreach)
      (verified_of_storeReachable hreach) hcom
  · intro t event t' hsent hcom'
    exact (commit_refines hcom').sent_stays hsent

/-- An operation that has a pending step had one before, or has just been told to send it. -/
theorem PendingOn.old (h : Run (Commit config) Db.empty tr s) (hcom : Commit config s event s')
    (hpend : PendingOn (tr ++ [(s, event)]) s' bindingId id) :
    PendingOn tr s bindingId id ∨ ∃ name, ClaimsStep id name (s, event) := by
  obtain ⟨op', name, row', outcome', hop', huses, hbind, ⟨e, he, hclaim⟩, hrow', hout',
    hopen⟩ := hpend
  rcases List.mem_append.1 he with hold | hnew
  · have hstep := commit_refines hcom
    have sound := (ledger_reached ⟨tr, h⟩).guarded.sound
    obtain ⟨row, hrow, hsent⟩ := sent_of_claimed h hold hclaim
    obtain ⟨outcome, hout⟩ := Option.ne_none_iff_exists'.1 hsent
    obtain ⟨op, hop⟩ := sound.step_owner id name row hrow
    obtain ⟨op'', hop'', hcont, -⟩ := (hstep.operations sound).stays hop
    cases hop''.symm.trans hop'
    unfold UsesWorkspace at huses
    rw [hcont.request] at huses
    rw [hcont.binding] at hbind
    refine .inl ⟨op, name, row, outcome, hop, huses, hbind, ⟨e, hold, hclaim⟩, hrow, hout, ?_⟩
    by_contra hterm
    obtain ⟨row'', outcome'', hrow'', hout'', hterm'⟩ := hstep.resolved_stays
      ⟨row, outcome, hrow, hout, by simpa using hterm⟩
    cases hrow'.symm.trans hrow''
    cases hout'.symm.trans hout''
    exact Bool.noConfusion (hopen.symm.trans hterm')
  · obtain rfl := List.mem_singleton.1 hnew
    exact .inr ⟨name, hclaim⟩

/-! ## The mark -/

/-- How a call may have changed the workspace of a binding. -/
inductive WorkspaceChange (s : Db) (bindingId : String) (row : HostWorkspaceRow) :
    HostWorkspaceRow → Prop
  | same : WorkspaceChange s bindingId row row
  | claimed {admission op} (runs : s.ledger.Runs admission op)
      (uses : UsesWorkspace op) (bound : bindingId = admission.binding.bindingId) :
      WorkspaceChange s bindingId row (row.claimedBy admission.intentId)
  | settled {id : String} (quiet : s.ledger.Quiet id)
      (own : row.activeIntent = some id ∨ row.activeIntent = none) :
      WorkspaceChange s bindingId row (row.settledBy id)

/-- The workspace was added for a target that is live: it is clean. -/
structure WorkspaceAdded (s : Db) (call : Call) (bindingId : String) (row : HostWorkspaceRow)
    (target : HostTargetV1) : Prop where
  registers : ∃ policy, call = .registerHostTarget target policy
  named : bindingId = target.liveBinding.bindingId
  clean : row = ⟨target.bindingGeneration, 0, false, none, none⟩
  binding : ∃ binding, s.bindings.get? bindingId = some binding ∧
    binding.generation = target.bindingGeneration

theorem Effect.workspaces (heff : Effect config s call s') (guarded : s.ledger.Guarded) :
    Evolves s.hostWorkspace.get? s'.hostWorkspace.get?
      (fun bindingId row => ∃ target, WorkspaceAdded s call bindingId row target)
      (WorkspaceChange s) := by
  have hrefl : ∀ bindingId row, WorkspaceChange s bindingId row row := fun _ _ => .same
  have hhost : ∀ {access : HostAccessTokenV1} {h : HostIntentV1} {op : OperationRow},
      s.ledger.RunsHost access h op → UsesWorkspace op := fun runs =>
    .inr (guarded.sound.journal_of runs.journal.stored runs.stored).host
  cases heff with
  | admitJoint admits | admitHost admits =>
    rw [admits.frame]
    exact .refl hrefl
  | @claimNative admission step op _ runs =>
    dsimp only
    split
    · rename_i hturn
      refine .modify hrefl fun bindingId row _ hmatch => ?_
      simp only [Bool.and_eq_true, decide_eq_true_eq] at hmatch
      exact .claimed runs.toRuns (.inl hturn) hmatch.1
    · exact .refl hrefl
  | settleTurn runs _ _ settled =>
    refine .modify hrefl fun bindingId row _ hmatch => ?_
    simp only [Bool.and_eq_true, decide_eq_true_eq] at hmatch
    exact .settled settled.quiet (.inl hmatch.2)
  | @registerTarget target policy _ _ live workspace =>
    rcases workspace with rfl | ⟨hfree, rfl⟩
    · exact .refl hrefl
    · obtain ⟨_, binding, -, -, hbound, hgen⟩ := session_of_targetLive live
      exact .insert hrefl hfree ⟨target, ⟨policy, rfl⟩, rfl, rfl, binding, hbound, hgen⟩
  | claimHost runs =>
    dsimp only
    split
    · exact .refl hrefl
    · refine .modify hrefl fun bindingId row _ hmatch => ?_
      simp only [Bool.and_eq_true, decide_eq_true_eq] at hmatch
      exact .claimed runs.toRuns (hhost runs) hmatch.1
  | failStale _ journal _ _ _ _ _ _ native =>
    refine .modify hrefl fun bindingId row _ hmatch => ?_
    simp only [Bool.and_eq_true, Bool.or_eq_true, decide_eq_true_eq,
      Option.isNone_iff_eq_none] at hmatch
    -- the mark is cleared by its owner, or when nobody is noted as its owner
    exact .settled ((guarded.journals _ _ journal.stored).quiet (.inr (.inr native))) hmatch.2
  | publishHost _ runs _ settled =>
    refine .modify hrefl fun bindingId row _ hmatch => ?_
    simp only [Bool.and_eq_true, Bool.or_eq_true, decide_eq_true_eq,
      Option.isNone_iff_eq_none] at hmatch
    refine .settled ((guarded.journals _ _ runs.journal.stored).quiet ?_) hmatch.2
    rcases settled with hsettled | hnone
    · exact .inl hsettled
    · exact .inr (.inl (by simpa using hnone))
  | _ => exact .refl hrefl

/-- The mark names the operation that has a pending step. -/
structure WorkspaceAgrees (tr : List (Db × (Call × Reply))) (s : Db) (bindingId : String)
    (row : HostWorkspaceRow) : Prop where
  generation : ∃ binding, s.bindings.get? bindingId = some binding ∧
    binding.generation = row.generation
  active : ∀ id, PendingOn tr s bindingId id → row.activeIntent = some id

/-- The mark of a workspace is set with its owner and cleared with it. -/
def MarksOwned (s : Db) : Prop :=
  ∀ bindingId row, s.hostWorkspace.get? bindingId = some row →
    (row.dirty = true ↔ row.activeIntent ≠ none)

theorem marksOwned_of_storeReachable (h : StoreReachable config s) : MarksOwned s := by
  refine h.induct (by simp [MarksOwned, Db.empty]) ?_
  intro s event s' hreach owned hcom bindingId row' hrow'
  have hworkspaces := (effect_of_commit hcom).workspaces (ledger_reached hreach).guarded
  rcases hworkspaces.origin hrow' with ⟨-, target, hadded⟩ | ⟨row, hrow, hchg⟩
  · simp [hadded.clean]
  · cases hchg with
    | same => exact owned bindingId _ hrow
    | claimed | settled => simp [HostWorkspaceRow.claimedBy, HostWorkspaceRow.settledBy]

/-- A call that is told to send a native step marks the workspace. -/
theorem ClaimsStep.marks {op : OperationRow} {row : HostWorkspaceRow}
    (verified : Verified s) (hcom : Commit config s event s')
    (hclaim : ClaimsStep id name (s, event)) (hop : s.operations.get? id = some op)
    (huses : UsesWorkspace op) (hbind : op.admission.binding.bindingId = bindingId)
    (hrow : s.hostWorkspace.get? bindingId = some row)
    (hgen : ∃ binding, s.bindings.get? bindingId = some binding ∧
      binding.generation = row.generation) :
    ∃ row', s'.hostWorkspace.get? bindingId = some row' ∧ row'.activeIntent = some id := by
  -- the token has the binding and the generation of the row
  have hmatch : ∀ {admission : JointAdmission} {op' : OperationRow},
      s.ledger.Runs admission op' → admission.intentId = id →
      bindingId = admission.binding.bindingId ∧ row.generation = admission.generation := by
    rintro admission op' runs rfl
    cases hop.symm.trans runs.stored
    obtain ⟨binding, hbound, hsame⟩ := hgen
    obtain ⟨binding', hbound', hsame', -⟩ := runs.fenced.binding
    rw [← hbind, runs.token] at hbound
    cases hbound.symm.trans hbound'
    exact ⟨by rw [← hbind, runs.token], hsame.symm.trans hsame'⟩
  have heff := effect_of_commit hcom
  have hstep := commit_refines hcom
  cases hclaim with
  | ordinary intent =>
    subst intent
    obtain ⟨hunsent, hsent⟩ := Step.sent_of_dispatch hstep
    cases heff with
    | quiet | cancel | intents => exact absurd hsent hunsent
    | claimNative runs =>
      cases hop.symm.trans runs.stored
      obtain ⟨hid, hsame⟩ := hmatch runs.toRuns rfl
      have hturn : op.request.context.operation = .turn :=
        huses.resolve_right (by simp [runs.ordinary])
      subst hid
      exact ⟨row.claimedBy _, by simp [hturn, get?_modify, hrow, hsame], rfl⟩
    | failStale finishes => rcases finishes with h | ⟨_, _, _, h⟩ <;> exact Call.noConfusion h
    | publishHost finishes => rcases finishes with h | ⟨_, _, h⟩ <;> exact Call.noConfusion h
  | @host _ access index h native intent journal listed step =>
    subst intent step
    have hread := verified.not_read journal listed
    obtain ⟨hunsent, hsent⟩ := Step.hostSent_of_hostDispatch hstep
    cases heff with
    | quiet | cancel | intents => exact absurd hsent hunsent
    | claimHost runs =>
      cases journal.symm.trans runs.journal.stored
      obtain ⟨hid, hsame⟩ := hmatch runs.toRuns rfl
      subst hid
      exact ⟨row.claimedBy _, by simp [hread, get?_modify, hrow, hsame], rfl⟩
    | failStale finishes => rcases finishes with h | ⟨_, _, _, h⟩ <;> exact Call.noConfusion h
    | publishHost finishes => rcases finishes with h | ⟨_, _, h⟩ <;> exact Call.noConfusion h

/-- A target is registered, with a new row for its workspace, only while nothing is pending on
its binding. -/
def RegistersQuietly (tr : List (Db × (Call × Reply))) (e : Db × (Call × Reply)) : Prop :=
  ∀ target policy, e.2.1 = .registerHostTarget target policy →
    e.1.hostWorkspace.get? target.liveBinding.bindingId = none →
    ∀ id, ¬ PendingOn tr e.1 target.liveBinding.bindingId id

theorem WorkspaceAgrees.step (h : Run (Commit config) Db.empty tr s)
    (agree : ∀ bindingId row, s.hostWorkspace.get? bindingId = some row →
      WorkspaceAgrees tr s bindingId row) (hcom : Commit config s event s')
    (hquiet : RegistersQuietly tr (s, event)) {row' : HostWorkspaceRow}
    (hrow' : s'.hostWorkspace.get? bindingId = some row') :
    WorkspaceAgrees (tr ++ [(s, event)]) s' bindingId row' := by
  have hreach : StoreReachable config s := ⟨tr, h⟩
  have heff := effect_of_commit hcom
  have hstep := commit_refines hcom
  have guarded := (ledger_reached hreach).guarded
  have bound := workspacesBound_of_storeReachable hreach
  have hbound : ∀ {binding : BindingRow}, s.bindings.get? bindingId = some binding →
      ∃ binding', s'.bindings.get? bindingId = some binding' ∧
        binding'.generation = binding.generation := by
    intro binding hbind
    obtain ⟨binding', hbind', hmove⟩ := hstep.bindings.stays hbind
    exact ⟨binding', hbind', hmove.continues.generation⟩
  rcases (heff.workspaces guarded).origin hrow' with
    ⟨hrow, target, ⟨policy, hcall⟩, rfl, rfl, binding, hbind, hgen⟩ |
      ⟨row, hrow, hchg⟩
  -- a new row has no mark: nothing is pending by assumption, and the call claims nothing
  · obtain ⟨binding', hbind', hsame⟩ := hbound hbind
    refine ⟨⟨binding', hbind', hsame.trans hgen⟩, fun id hpend => ?_⟩
    rcases hpend.old h hcom with hold | ⟨name, hclaim⟩
    · exact absurd hold (hquiet target policy hcall hrow id)
    · cases hclaim <;> exact Call.noConfusion hcall
  · obtain ⟨⟨binding, hbind, hgen⟩, hact⟩ := agree bindingId row hrow
    obtain ⟨binding', hbind', hsame⟩ := hbound hbind
    refine ⟨⟨binding', hbind', ?_⟩, fun id hpend => ?_⟩
    · rw [hsame, hgen]
      cases hchg <;> rfl
    · rcases hpend.old h hcom with hold | ⟨name, hclaim⟩
      · have hown := hact id hold
        cases hchg with
        | same => exact hown
        | @claimed admission op' runs uses bound_eq =>
          -- both hold the fence of the session of the binding
          obtain ⟨op, hop, hholds⟩ := guarded.held id hold.unresolved
          obtain ⟨op₂, _, _, _, hop₂, huses, hbind₂, -⟩ := hold
          cases hop.symm.trans hop₂
          have hid := bound.holder_unique hop runs.stored huses uses
            (by rw [hbind₂, runs.token, bound_eq]) hholds (runs.holds guarded.sound)
          rw [hid]
          rfl
        | settled quiet own =>
          -- its owner has nothing pending when it settles, so it is not the pending one
          rcases own with hid | hnone
          · cases hown.symm.trans hid
            exact absurd hold.unresolved quiet.not_unresolved
          · cases hown.symm.trans hnone
      -- the call itself claims the step
      · obtain ⟨op', _, _, _, hop', huses, hbind₂, -⟩ := hpend
        obtain ⟨row₂, hrow₂, hmarked⟩ : ∃ row', s'.hostWorkspace.get? bindingId = some row' ∧
            row'.activeIntent = some id := by
          obtain ⟨op, hop⟩ := hclaim.stored hcom
          obtain ⟨op'', hop'', hcont, -⟩ := (hstep.operations guarded.sound).stays hop
          cases hop''.symm.trans hop'
          unfold UsesWorkspace at huses
          rw [hcont.request] at huses
          rw [hcont.binding] at hbind₂
          exact hclaim.marks (verified_of_storeReachable hreach) hcom hop huses
            hbind₂ hrow ⟨binding, hbind, hgen⟩
        cases hrow₂.symm.trans hrow'
        exact hmarked

/-- **Workspaces**: the mark of a workspace is set exactly while it has an owner.  If every
target was registered while nothing was pending on its binding, a workspace without the mark has
no turn and no Host operation with a claimed native step whose outcome is not terminal. -/
theorem workspace_dirtiness {tr : List (Db × (Call × Reply))}
    (h : Run (Commit config) Db.empty tr s) :
    (∀ bindingId row, s.hostWorkspace.get? bindingId = some row →
      (row.dirty = true ↔ row.activeIntent ≠ none)) ∧
    ((∀ before e after, tr = before ++ e :: after → RegistersQuietly before e) →
      ∀ bindingId row, s.hostWorkspace.get? bindingId = some row → row.dirty = false →
        ∀ id, ¬ PendingOn tr s bindingId id) := by
  have howned := marksOwned_of_storeReachable ⟨tr, h⟩
  refine ⟨howned, fun hquiet bindingId row hrow hclean id hpend => ?_⟩
  have hagree : ∀ bindingId row, s.hostWorkspace.get? bindingId = some row →
      WorkspaceAgrees tr s bindingId row := by
    clear hpend hclean hrow howned
    induction h with
    | nil => simp [Db.empty]
    | @snoc tr s s' event hrun hcom ih =>
      intro bindingId row hrow
      refine WorkspaceAgrees.step hrun (ih fun before e after htr => ?_) hcom
        (hquiet tr (s, event) [] rfl) hrow
      exact hquiet before e (after ++ [(s, event)]) (by simp [htr])
  have hact := (hagree bindingId row hrow).active id hpend
  have hdirty := (howned bindingId row hrow).2 (by simp [hact])
  exact Bool.noConfusion (hclean.symm.trans hdirty)

/-- The execution was settled before the workspace is clean again. -/
theorem workspace_of_settled :
    let calls := hostCalls ++ [.finishHost hostToken (.object [])]
    let s := execAll smallConfig calls Db.empty
    let tr := traceAll smallConfig calls Db.empty
    (∃ row, s.hostWorkspace.get? "binding" = some row ∧ row.dirty = false ∧
      row.lastSettled = some "exec") ∧ ∀ id, ¬ PendingOn tr s "binding" id := by
  intro calls s tr
  have hclean : ∃ row, s.hostWorkspace.get? "binding" = some row ∧ row.dirty = false ∧
      row.lastSettled = some "exec" := by decide +kernel
  refine ⟨hclean, ?_⟩
  obtain ⟨row, hrow, hmark, -⟩ := hclean
  refine (workspace_dirtiness (run_execAll smallConfig calls Db.empty)).2 ?_ "binding" row hrow
    hmark
  -- the target is registered before any turn or Host operation is admitted
  have hearly : tr.all (fun e => match e.2.1 with
      | .registerHostTarget _ _ => !e.1.operations.any fun _ op =>
        op.request.context.operation = .turn || op.request.context.operation.isHost
      | _ => true) = true := by decide +kernel
  rintro before e after htr target policy hcall - id ⟨op, _, _, _, hop, huses, -⟩
  have hnone := List.all_eq_true.1 hearly e (by rw [show tr = _ from htr]; simp)
  simp only [hcall, Bool.not_eq_true', any_eq_false_iff] at hnone
  have hother := hnone id op hop
  simp only [Bool.or_eq_false_iff, decide_eq_false_iff_not] at hother
  rcases huses with hturn | hhost
  · exact hother.1 hturn
  · exact Bool.noConfusion (hother.2.symm.trans hhost)

/-- A turn whose execution is invalid fails its session before it settles, and a failed session
may be registered: the workspace is clean while the message of the turn is on its way. -/
def registeredLate : List Call :=
  hostOpenCalls.dropLast ++ [
    .prepareJointOperation turnRequest,
    .claimJointNativeSend (newAdmission turnRequest (0, some 2)) "send",
    .invalidateJointTurn (newAdmission turnRequest (0, some 2)),
    .registerHostTarget hostTarget hostPolicy]

private def claimsTurn : Call × Reply → Bool
  | (.claimJointNativeSend admission name, .native (some _)) =>
    admission.intentId = "turn" && name = "send"
  | _ => false

theorem workspace_clean_of_pending :
    let s := execAll smallConfig registeredLate Db.empty
    let tr := traceAll smallConfig registeredLate Db.empty
    Run (Commit smallConfig) Db.empty tr s ∧
    ∃ row, s.hostWorkspace.get? "binding" = some row ∧ row.dirty = false ∧
      PendingOn tr s "binding" "turn" := by
  intro s tr
  refine ⟨run_execAll smallConfig registeredLate Db.empty, ?_⟩
  obtain ⟨row, hrow, hclean⟩ : ∃ row, s.hostWorkspace.get? "binding" = some row ∧
      row.dirty = false := by decide +kernel
  obtain ⟨op, hop, hturn, hbind⟩ : ∃ op, s.operations.get? "turn" = some op ∧
      op.request.context.operation = .turn ∧ op.admission.binding.bindingId = "binding" := by
    decide +kernel
  obtain ⟨step, hstep, outcome, hsent, hopen⟩ : ∃ row, s.steps.get? ("turn", "send") = some row ∧
      ∃ outcome, row.outcome = some outcome ∧ outcome.state.isTerminal = false := by
    decide +kernel
  have hclaimed : tr.any (fun e => claimsTurn e.2) = true := by decide +kernel
  obtain ⟨⟨t, event⟩, hmem, hclaim⟩ := List.any_eq_true.1 hclaimed
  refine ⟨row, hrow, hclean, op, "send", step, outcome, hop, .inl hturn, hbind,
    ⟨_, hmem, ?_⟩, hstep, hsent, hopen⟩
  unfold claimsTurn at hclaim
  split at hclaim
  · rename_i admission name native heq
    simp only [Bool.and_eq_true, decide_eq_true_eq] at hclaim
    obtain rfl : event = _ := heq
    obtain ⟨hid, rfl⟩ := hclaim
    exact .ordinary hid
  · exact absurd hclaim (by simp)

end XGovernor.Joint
