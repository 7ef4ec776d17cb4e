import XGovernor.Joint.Coherence
import XGovernor.Joint.Fencing

/-!
# Host operations of the store

The record of a Host operation is spread over its journal, its operation, its cleanup, its
allocation, its hold and its fence.  Only the calls that carry its token write any of them, so an
invariant of Host operations is proved about these calls alone.
-/

namespace XGovernor.Joint

open Domain Lib Ledger Table

variable {h : HostIntentV1} {access : HostAccessTokenV1}

variable {config : StoreConfig} {s s' : Db} {call : Call} {operations : Table String OperationRow}
  {intents : Table String HostIntentV1} {id' : String} {h' : HostIntentV1} {stage : Stage}

/-! ## Journals -/

theorem savedIntents_of_ne {id} (hne : id ≠ h.access.admission.intentId) :
    (savedIntents intents h).get? id = intents.get? id :=
  get?_modify_key_of_ne _ hne _

theorem savedIntents_self {old id} (hsto : intents.get? id = some old) (new)
    (hid : new.access.admission.intentId = id) : (savedIntents intents new).get? id = some new := by
  simp [savedIntents, get?_modify, hsto, hid]

/-- The source fence was taken again, and the token has the new epoch. -/
def Retaken (s s' : Db) (h h' : HostIntentV1) : Prop :=
  ∃ source, s.fences.get? (.source, h.prepared.target.publicRuntimeId) = some source ∧
    h'.access.admission.sourceEpoch = some (source.epoch + 1) ∧
    s'.fences.get? (.source, h.prepared.target.publicRuntimeId) = some
      { source with epoch := source.epoch + 1, holder := some h.access.admission.intentId }

/-- How a call may have changed the journal of a Host operation. -/
structure JournalMove (s s' : Db) (id : String) (h h' : HostIntentV1) : Prop where
  prepared : h'.prepared = h.prepared
  /-- The token changes only when a suspended cleanup takes its source fence again. -/
  access : h'.access = h.access ∨ Retaken s s' h h'
  /-- Evidence is recorded only while the workspace awaits no checkpoint. -/
  evidence : ∀ e, h'.artifactEvidence = some e → h.artifactEvidence = some e ∨
    (s.cancelBoundaries.get? h'.access.admission.binding.bindingId).any
      (fun row => row.checkpointEpoch < row.cancelEpoch) = false

/-- A journal that a call adds is the one of an operation that it admitted. -/
inductive NewJournal (config : StoreConfig) (s s' : Db) (id : String) : HostIntentV1 → Prop
  | admitted {prepared epochs}
      (admits : AdmitsHost config s prepared s') (id_eq : id = prepared.context.intentId) :
      NewJournal config s s' id
        (newHostIntent config.codec prepared (hostAccess config.codec prepared epochs))

/-- **Journals stay**: the journal of a Host operation stays about the same preparation. -/
theorem Effect.hostIntents (heff : Effect config s call s') :
    Evolves s.hostIntents.get? s'.hostIntents.get? (NewJournal config s s') (JournalMove s s') := by
  have hrefl : ∀ id h, JournalMove s s' id h h := fun _ _ => ⟨rfl, .inl rfl, fun _ he => .inl he⟩
  -- all but the admission rewrite one journal, which the call has read
  have hsaved : ∀ {access : HostAccessTokenV1} {old new : HostIntentV1},
      s.ledger.HasJournal access old → s'.hostIntents = savedIntents s.hostIntents new →
      new.access.admission.intentId = access.admission.intentId →
      JournalMove s s' access.admission.intentId old new →
      Evolves s.hostIntents.get? s'.hostIntents.get? (NewJournal config s s')
        (JournalMove s s') := by
    intro access old new hjour hints hid hmove
    rw [hints, savedIntents, hid]
    exact .modify_key hrefl hjour.stored hmove
  cases heff with
  | admitJoint admits => exact .of_eq hrefl (by rw [admits.frame]; rfl)
  | admitHost admits =>
    obtain ⟨epochs, _, _, -, hints, -⟩ := admits.admitted
    rw [hints]
    exact .insert hrefl admits.unrecorded ⟨admits, rfl⟩
  | claimHost runs | recordHost runs | recover runs | delegateCleanup runs | suspend runs
  | endDelegation runs =>
    exact hsaved runs.journal rfl runs.journal.id_eq ⟨rfl, .inl rfl, fun _ he => .inl he⟩
  | finishCleanup journal =>
    exact hsaved journal rfl journal.id_eq ⟨rfl, .inl rfl, fun _ he => .inl he⟩
  | failStale _ journal =>
    refine hsaved journal rfl journal.id_eq ⟨rfl, .inl rfl, fun e he => ?_⟩
    exact absurd he (by simp [HostIntentV1.staleRead])
  | publishHost _ runs _ _ _ proved =>
    refine hsaved runs.journal rfl runs.journal.id_eq ⟨rfl, .inl rfl, fun e he => ?_⟩
    rw [HostIntentV1.published, runs.journal.token]
    exact proved e he
  | @resume _ _ _ _ _ _ source _ journal _ _ _ _ source_free admission_eq =>
    refine hsaved journal rfl (by rw [admission_eq]; rfl)
      ⟨rfl, .inr ⟨source, source_free.1, ?_, ?_⟩, fun _ he => .inl he⟩
    · rw [admission_eq]
      rfl
    · rw [journal.id_eq]
      exact get?_modify_key_self source_free.1 _
  | _ => exact .refl hrefl

/-- The journal of every Host operation is about a preparation that was verified. -/
def Verified (s : Db) : Prop :=
  ∀ id h, s.hostIntents.get? id = some h → verifyRequest h.prepared = .ok ()

theorem verified_of_storeReachable (h : StoreReachable config s) : Verified s := by
  refine h.induct (by simp [Verified, Db.empty]) ?_
  intro s event s' _ hver hcom id host' hsto'
  rcases (effect_of_commit hcom).hostIntents.origin hsto' with
    ⟨-, ⟨hadm, -⟩⟩ | ⟨host, hsto, hmove⟩
  · exact hadm.verified
  · rw [hmove.prepared]
    exact hver id host hsto

/-! ## What the calls of others keep -/

/-- The token a Host call is made with. -/
def Call.access? : Call → Option HostAccessTokenV1
  | .claimHostStep access _ => some access
  | .recordHostStep access _ _ => some access
  | .recordHostRecovery access _ => some access
  | .finishHost access _ => some access
  | .failStaleHostRead access => some access
  | .finishHostRead access _ _ _ => some access
  | .prepareHostCleanup access _ _ => some access
  | .suspendHostCleanup access => some access
  | .releaseHostDependency access _ => some access
  | .resumeHostCleanup access => some access
  | .finishHostCleanup access => some access
  | _ => none

theorem access?_of_stale (h : call = .failStaleHostRead access ∨
    ∃ result before after, call = .finishHostRead access result before after) :
    call.access? = some access := by
  rcases h with rfl | ⟨_, _, _, rfl⟩ <;> rfl

theorem access?_of_result {result} (h : call = .finishHost access result ∨
      ∃ before after, call = .finishHostRead access result before after) :
    call.access? = some access := by
  rcases h with rfl | ⟨_, _, rfl⟩ <;> rfl

/-- The record of a Host operation is as before. -/
structure HostKept (s s' : Db) (id : String) : Prop where
  journal : s'.hostIntents.get? id = s.hostIntents.get? id
  operation : s'.operations.get? id = s.operations.get? id
  cleanup : s'.hostCleanup.get? id = s.hostCleanup.get? id
  allocation : s'.hostAllocations.get? id = s.hostAllocations.get? id
  hold : s'.refs.get? (.hostHold, id) = s.refs.get? (.hostHold, id)
  fences : Keeps s.ledger.fences s'.ledger.fences id

/-- The token of a journal is the one stored in it. -/
theorem Ledger.HasJournal.access_eq (hjour : s.ledger.HasJournal access h')
    (hsto : s.hostIntents.get? access.admission.intentId = some h) : h.access = access := by
  rw [Option.mem_unique hsto hjour.stored]
  exact hjour.token

/-- A call with the token of a Host operation acts on its journal. -/
theorem Ledger.HasJournal.own (hjour : s.ledger.HasJournal access h')
    (hacc : call.access? = some access) (hown : call.access? = some h.access)
    (hsto : s.hostIntents.get? h.access.admission.intentId = some h) :
    access = h.access ∧ h = h' := by
  cases hacc.symm.trans hown
  exact ⟨rfl, Option.mem_unique hsto hjour.stored⟩

theorem resumedFences_get? (fences : Table (FenceKind × String) FenceRow)
    (key : FenceKind × String) (id : String) :
    (fences.modify (fun k _ => k = key) fun fence =>
      { fence with epoch := fence.epoch + 1, holder := some id }).get? =
      taken fences.get? key id := by
  funext k
  simp [get?_modify, taken]

private theorem stagedOperation_of_ne {id} (hne : id ≠ id') :
    (stagedOperation operations id' stage).get? id = operations.get? id :=
  get?_modify_key_of_ne _ hne _

private theorem advancedOperation_of_ne {id} (hne : id ≠ id') :
    (advancedOperation operations id' stage).get? id = operations.get? id :=
  get?_modify_key_of_ne _ hne _

/-- Who takes a fence: an operation that the call admits, or a Host operation that it resumes. -/
inductive FenceTaker (config : StoreConfig) (s : Db) (call : Call) (s' : Db) : String → Prop
  | joint {request} (admits : Admits config s request s') :
      FenceTaker config s call s' request.context.intentId
  | host {prepared} (admits : AdmitsHost config s prepared s') :
      FenceTaker config s call s' prepared.context.intentId
  | resumed {access : HostAccessTokenV1} {h : HostIntentV1} (acts : call.access? = some access)
      (journal : s.ledger.HasJournal access h) :
      FenceTaker config s call s' access.admission.intentId

/-- What a call may have done to the fences. -/
inductive FenceChange (config : StoreConfig) (s : Db) (call : Call) (s' : Db) : Prop
  | same (fences : s'.fences = s.fences)
  | freed {admission op} (runs : s.ledger.RunsOrdinary admission op)
      (fences : s'.fences = freedFences s.fences admission.intentId)
      (turn : op.request.context.operation = .turn →
        ∃ terminal session, s' = s.turnSettled op admission terminal session)
  | freedHost {access : HostAccessTokenV1} {h : HostIntentV1} (acts : call.access? = some access)
      (journal : s.ledger.HasJournal access h)
      (fences : s'.fences = freedFences s.fences access.admission.intentId)
  | took {id} (taker : FenceTaker config s call s' id)
      (keeps : ∀ other, other ≠ id → Keeps s.ledger.fences s'.ledger.fences other)

/-- **Fences**: a call frees those of the operation it ends or suspends, or takes one. -/
theorem Effect.fences (heff : Effect config s call s') (coherent : s.ledger.Coherent) :
    FenceChange config s call s' := by
  have hcreates : ∀ {operation : Operation}, operation.creates = true → operation ≠ .turn := by
    rintro operation hcreates rfl
    exact absurd hcreates (by decide)
  cases heff with
  | admitJoint admits =>
    obtain ⟨epochs, -, hacq⟩ := admits.acquires
    exact .took (.joint admits) fun other hne => hacq.keeps hne
  | admitHost admits =>
    obtain ⟨epochs, root, source, -, -, hsrc, hfree, -, hfences⟩ := admits.admitted
    refine .took (.host admits) fun other hne => ?_
    rw [hfences]
    exact (keeps_ensured _ _).trans (keeps_taken hsrc hfree hne)
  | resume journal _ _ _ _ source_free =>
    refine .took (.resumed rfl journal) fun other hne => ?_
    show Keeps s.fences.get? (Table.get? _) other
    rw [resumedFences_get?]
    exact keeps_taken source_free.1 source_free.2 hne
  | publishSession runs _ creates | publishCheckpoint runs _ creates =>
    exact .freed runs rfl fun hturn => absurd hturn (hcreates creates)
  | settleTurn runs => exact .freed runs rfl fun _ => ⟨_, _, rfl⟩
  | finishCompensation runs creation =>
    obtain ⟨row, hrow, hcrea, -⟩ := creation
    obtain ⟨op, hcreated⟩ := coherent.creation _ row hrow
    obtain rfl := Option.mem_unique runs.stored (hcrea ▸ hcreated.stored)
    exact .freed runs rfl fun hturn => absurd hturn (hcreates hcreated.creates)
  | closeSession runs hkind | deleteJointCheckpoint runs hkind =>
    exact .freed runs rfl fun hturn => absurd (hkind.symm.trans hturn) (by simp)
  | failStale finishes journal => exact .freedHost (access?_of_stale finishes) journal rfl
  | publishHost finishes runs => exact .freedHost (access?_of_result finishes) runs.journal rfl
  | suspend runs => exact .freedHost rfl runs.journal rfl
  | _ => exact .same rfl

theorem keeps_of_eq {id} (h : s'.fences = s.fences) :
    Keeps s.ledger.fences s'.ledger.fences id := by
  show Keeps s.fences.get? s'.fences.get? id
  rw [h]
  exact .refl _ _

theorem keeps_of_freed {id} (h : s'.fences = freedFences s.fences id')
    (hne : id ≠ id') : Keeps s.ledger.fences s'.ledger.fences id := by
  show Keeps s.fences.get? s'.fences.get? id
  rw [h, freedFences_get?]
  exact keeps_released hne

/-- The call is made with the token of the operation, or with the token of the one whose cleanup
it is. -/
def Call.ActsOn (call : Call) (s : Db) (id : String) : Prop :=
  ∃ access h, call.access? = some access ∧ s.ledger.HasJournal access h ∧
    (access.admission.intentId = id ∨
      ∃ cleanup, s.hostCleanup.get? access.admission.intentId = some cleanup ∧ cleanup.childId = id)

private theorem Call.actsOn_or (hacc : call.access? = some access)
    (hjour : s.ledger.HasJournal access h) (id : String) :
    call.ActsOn s id ∨ id ≠ access.admission.intentId ∧
      ∀ cleanup, s.hostCleanup.get? access.admission.intentId = some cleanup →
        id ≠ cleanup.childId := by
  by_cases hacts : call.ActsOn s id
  · exact .inl hacts
  · refine .inr ⟨fun hid => hacts ⟨access, h, hacc, hjour, .inl hid.symm⟩, ?_⟩
    intro cleanup hcleanup hid
    exact hacts ⟨access, h, hacc, hjour, .inr ⟨cleanup, hcleanup, hid.symm⟩⟩

section Operation

variable {id : String} {op : OperationRow} (hop : s.operations.get? id = some op)
  (hhost : op.request.context.operation.isHost = true)

include hop in
private theorem ne_of_fresh_host (hfresh : s.operations.get? id' = none) :
    id ≠ id' := by
  rintro rfl
  cases hfresh.symm.trans hop

include hop hhost

private theorem ne_of_ordinary_host {admission op'}
    (hruns : s.ledger.RunsOrdinary admission op') : id ≠ admission.intentId := by
  rintro rfl
  cases hop.symm.trans hruns.stored
  cases hhost.symm.trans hruns.ordinary

private theorem ne_of_creation_host (coherent : s.ledger.Coherent) {bindingId binding}
    (hbound : s.bindings.get? bindingId = some binding) :
    id ≠ binding.creationIntent := by
  rintro rfl
  obtain ⟨op', hcreated⟩ := coherent.creation bindingId binding hbound
  cases hop.symm.trans hcreated.stored
  exact absurd hcreated.creates (by simp [not_creates_of_host hhost])

/-- The row of a Host operation or a cleanup is changed only by calls that act on it. -/
theorem Effect.operation_kept (heff : Effect config s call s') (coherent : s.ledger.Coherent) :
    s'.operations.get? id = s.operations.get? id ∨ call.ActsOn s id := by
  -- a call on an ordinary operation writes a row that is not the one of a Host operation
  have hstaged : ∀ {admission : JointAdmission} {op' : OperationRow} {stage : Stage},
      s.ledger.RunsOrdinary admission op' →
      (stagedOperation s.operations admission.intentId stage).get? id = s.operations.get? id :=
    fun hruns => stagedOperation_of_ne (ne_of_ordinary_host hop hhost hruns)
  have hadvanced : ∀ {admission : JointAdmission} {op' : OperationRow} {stage : Stage},
      s.ledger.RunsOrdinary admission op' →
      (advancedOperation s.operations admission.intentId stage).get? id = s.operations.get? id :=
    fun hruns => advancedOperation_of_ne (ne_of_ordinary_host hop hhost hruns)
  -- a call with the token of another operation
  have hother : ∀ {access : HostAccessTokenV1} {h : HostIntentV1},
      call.access? = some access → s.ledger.HasJournal access h →
      (id ≠ access.admission.intentId → (∀ cleanup,
        s.hostCleanup.get? access.admission.intentId = some cleanup → id ≠ cleanup.childId) →
        s'.operations.get? id = s.operations.get? id) →
      s'.operations.get? id = s.operations.get? id ∨ call.ActsOn s id := by
    intro access h hacc hjour hkept
    rcases Call.actsOn_or hacc hjour id with hacts | ⟨hid, hchild⟩
    · exact .inr hacts
    · exact .inl (hkept hid hchild)
  cases heff with
  | @admitJoint request s' admits =>
    obtain ⟨epochs, hops, -⟩ := admits.acquires
    exact .inl (by rw [hops, get?_add_of_ne _ (ne_of_fresh_host hop admits.fresh)])
  | claimNative runs | record runs => exact .inl (hadvanced runs)
  | publishSession runs | publishCheckpoint runs =>
    have hne := ne_of_ordinary_host hop hhost runs
    exact .inl (get?_modify_of_not (fun _ _ => by simp [hne]) _)
  | settleTurn runs | beginCompensation runs | finishCompensation runs => exact .inl (hstaged runs)
  | closeSession runs _ _ bound | deleteJointCheckpoint runs _ bound =>
    have hne := ne_of_ordinary_host hop hhost runs
    have hcrea := ne_of_creation_host hop hhost coherent bound
    exact .inl (get?_modify_of_not (fun _ _ => by simp [hne, hcrea]) _)
  | admitHost admits =>
    obtain ⟨epochs, _, _, hops, -⟩ := admits.admitted
    exact .inl (by rw [hops, get?_add_of_ne _ (ne_of_fresh_host hop admits.fresh)])
  | claimHost runs | recordHost runs =>
    exact hother rfl runs.journal fun hid _ => stagedOperation_of_ne hid
  | failStale finishes journal =>
    refine hother (access?_of_stale finishes) journal fun hid _ => ?_
    exact get?_modify_key_of_ne _ hid _
  | publishHost finishes runs =>
    refine hother (access?_of_result finishes) runs.journal fun hid _ => ?_
    exact get?_modify_key_of_ne _ hid _
  | delegateCleanup runs settled fresh =>
    exact .inl (get?_add_of_ne _ (ne_of_fresh_host hop fresh) _)
  | suspend runs _ delegated =>
    refine hother rfl runs.journal fun hid hchild => ?_
    exact get?_modify_of_not (fun _ _ => by simp [hid, hchild _ delegated]) _
  | resume journal _ delegated =>
    refine hother rfl journal fun hid hchild => ?_
    exact (get?_modify_key_of_ne _ (hchild _ delegated) _).trans
      (get?_modify_key_of_ne _ hid _)
  | endDelegation runs _ _ delegated =>
    exact hother rfl runs.journal fun _ hchild => stagedOperation_of_ne (hchild _ delegated)
  | _ => exact .inl rfl

end Operation

/-- The operation of a journal is not a cleanup. -/
theorem Verified.not_cleanup (verified : Verified s) (sound : s.ledger.Sound) {id op}
    (hsto : s.hostIntents.get? id = some h)
    (hop : s.operations.get? id = some op) :
    op.request.context.operation ≠ .hostCleanup := by
  have hreq := (sound.journal_of hsto hop).request
  rw [hreq]
  show h.prepared.context.operation ≠ _
  rw [operation_of_verifyRequest (verified id h hsto)]
  cases h.prepared.request <;> simp [HostCanonicalRequestV1.operation]

/-- A cleanup has no journal of its own. -/
theorem Verified.ne_child (verified : Verified s) (sound : s.ledger.Sound) {id cleanup}
    (hsto : s.hostIntents.get? id = some h)
    (hcleanup : s.hostCleanup.get? id' = some cleanup) : cleanup.childId ≠ id := by
  rintro rfl
  obtain ⟨_, child, -, hchild, his⟩ := sound.cleanup id' cleanup hcleanup
  exact verified.not_cleanup sound hsto hchild (by rw [his.request])

/-- **Host operations are their own**: only a call with the token of a Host operation changes its
record. -/
theorem Effect.host_kept (heff : Effect config s call s') (sound : s.ledger.Sound)
    (coherent : s.ledger.Coherent) (verified : Verified s) {id}
    (hsto : s.hostIntents.get? id = some h) :
    HostKept s s' id ∨ call.access? = some h.access := by
  obtain ⟨op, hop, hjour⟩ := sound.journal id h hsto
  have hfresh : ∀ {id' : String}, s.operations.get? id' = none → id ≠ id' :=
    ne_of_fresh_host hop
  -- a call with the token of another operation
  have hother : ∀ {access : HostAccessTokenV1} {h' : HostIntentV1} {p : Prop},
      call.access? = some access → s.ledger.HasJournal access h' →
      (id ≠ access.admission.intentId → p) → p ∨ call.access? = some h.access := by
    intro access h' p hacc hjour' hkept
    by_cases hid : id = access.admission.intentId
    · exact .inr (hacc.trans (by rw [hjour'.access_eq (hid ▸ hsto)]))
    · exact .inl (hkept hid)
  -- fences change hands by a release or an admission, and neither is of this operation
  have hfences : Keeps s.ledger.fences s'.ledger.fences id ∨ call.access? = some h.access := by
    cases heff.fences coherent with
    | same fences => exact .inl (keeps_of_eq fences)
    | freed runs fences =>
      exact .inl (keeps_of_freed fences (ne_of_ordinary_host hop hjour.host runs))
    | freedHost acts journal fences => exact hother acts journal (keeps_of_freed fences)
    | took taker keeps =>
      cases taker with
      | joint admits | host admits => exact .inl (keeps id (hfresh admits.fresh))
      | resumed acts journal => exact hother acts journal (keeps id)
  rcases hfences with hfences | hacts
  swap
  · exact .inr hacts
  rcases heff.operation_kept hop hjour.host coherent with
    hoper | ⟨access, h', hacc, hjour', hid | ⟨cleanup, hcleanup, hid⟩⟩
  · cases heff with
    | @admitJoint request s' admits =>
      refine .inl ⟨?_, hoper, ?_, ?_, ?_, hfences⟩
      · rw [admits.frame]; rfl
      · rw [admits.frame]; rfl
      · rw [admits.frame]; rfl
      · rw [admits.refs]
        cases hpar : request.parentBinding with
        | none => rfl
        | some parent => exact get?_add_of_ne _ (by simp) _
    | publishSession runs | publishCheckpoint runs =>
      refine .inl ⟨rfl, hoper, rfl, rfl, ?_, hfences⟩
      exact get?_add_of_ne _ (by simp) _
    | finishCompensation runs =>
      refine .inl ⟨rfl, hoper, rfl, rfl, ?_, hfences⟩
      exact get?_erase_of_not fun _ _ => by simp
    | closeSession runs | deleteJointCheckpoint runs =>
      refine .inl ⟨rfl, hoper, rfl, rfl, ?_, hfences⟩
      exact (get?_erase_of_not fun _ _ => by simp).trans
        (get?_erase_of_not fun _ _ => by simp)
    | admitHost admits =>
      have hne := hfresh admits.fresh
      obtain ⟨epochs, root, source, -, hints, -⟩ := admits.admitted
      refine .inl ⟨?_, hoper, ?_, ?_, ?_, hfences⟩
      · rw [hints, get?_add_of_ne _ hne]
      · rw [admits.frame]; rfl
      · rw [admits.allocations, get?_add_of_ne _ hne]
      · rw [admits.refs, get?_add_of_ne _ (by simpa using hne)]
    | claimHost runs | recordHost runs | recover runs =>
      exact hother rfl runs.journal fun hid => ⟨savedIntents_of_ne (runs.journal.id_eq ▸ hid),
        hoper, rfl, rfl, rfl, hfences⟩
    | failStale finishes journal =>
      refine hother (access?_of_stale finishes) journal fun hid =>
        ⟨savedIntents_of_ne (journal.id_eq ▸ hid), hoper, rfl, ?_, ?_, hfences⟩
      · exact get?_modify_key_of_ne _ hid _
      · exact get?_erase_of_not fun _ _ => by simp [hid]
    | publishHost finishes runs =>
      refine hother (access?_of_result finishes) runs.journal fun hid =>
        ⟨savedIntents_of_ne (runs.journal.id_eq ▸ hid), hoper, rfl, ?_, ?_, hfences⟩
      · split
        · exact get?_modify_key_of_ne _ hid _
        · rfl
      · dsimp only
        split
        · exact get?_erase_of_not fun _ _ => by simp [hid]
        · rfl
    | delegateCleanup runs =>
      exact hother rfl runs.journal fun hid => ⟨savedIntents_of_ne (runs.journal.id_eq ▸ hid),
        hoper, get?_add_of_ne _ hid _, rfl, rfl, hfences⟩
    | suspend runs | endDelegation runs =>
      exact hother rfl runs.journal fun hid => ⟨savedIntents_of_ne (runs.journal.id_eq ▸ hid),
        hoper, get?_modify_key_of_ne _ hid _, rfl, rfl, hfences⟩
    | resume journal _ _ _ _ _ admission_eq =>
      refine hother rfl journal fun hid => ⟨?_, hoper, ?_, rfl, rfl, hfences⟩
      · exact savedIntents_of_ne (by simpa [HostIntentV1.resumed, admission_eq] using hid)
      · exact get?_modify_key_of_ne _ hid _
    | finishCleanup journal =>
      exact hother rfl journal fun hid => ⟨savedIntents_of_ne (journal.id_eq ▸ hid),
        hoper, rfl, get?_modify_key_of_ne _ hid _,
        get?_erase_of_not fun _ _ => by simp [hid], hfences⟩
    | _ => exact .inl ⟨rfl, hoper, rfl, rfl, rfl, hfences⟩
  · exact .inr (hacc.trans (by rw [hjour'.access_eq (hid ▸ hsto)]))
  -- the row is a cleanup, and cleanups have no journal
  · exact absurd hid (verified.ne_child sound hsto hcleanup)

/-! ## A Host operation of the small deployment -/

/-- What the small deployment lets a Host operation do. -/
def hostPolicy : HostCapabilityPolicyV1 where
  schemaVersion := 1
  configurationRevision := "r1"
  deploymentId := "deployment"
  backendReleaseRef := "release"
  sdkFingerprint := "sdk"
  frozenHostConfigDigest := ""
  evidenceRefs := ["evidence"]
  paths := ⟨"/workspace", ".", none, 1⟩
  exec := true
  read := true
  overwrite := true
  maxTimeoutMs := 1000
  maxOutputBytes := 64
  maxArgvItems := 8
  maxArgvBytes := 64
  maxFileBytes := 64
  maxInflight := 2
  maxReservedBytes := 128
  mkdirTimeoutMs := 1000
  exitedSettlementDeclared := true
  timeoutSettlementDeclared := true

/-- The session of the operator as a target of Host operations. -/
def hostTarget : HostTargetV1 where
  schemaVersion := 1
  publicRuntimeId := "session"
  liveBinding := openRequest.binding
  tenantKey := tenantKey none
  ownerRef := tenantKey none
  deploymentId := "deployment"
  rootBindingId := "binding"
  rootId := "root"
  nativeChildId := "child"
  branchId := "branch"
  bindingGeneration := 1
  rootRuntimeGeneration := 1
  workspaceMappingDigest := ""
  sourceCheckpointId := none
  sourcePairRef := none

/-- The session is created with the objects of a Host target, which is then registered. -/
def hostOpenCalls : List Call :=
  [.prepareJointOperation openRequest, .claimJointNativeSend openAdmission "create",
    .recordJointNativeResult openAdmission "create" "00000000-0000-0000-0000-000000000001"
      "0000000000000000000000000000000000000000000000000000000000000000"
      ⟨.completed, [⟨"root", "root"⟩, ⟨"child", "child"⟩, ⟨"branch", "branch"⟩], .null⟩,
    .publishJointSession openAdmission openRecord, .registerHostTarget hostTarget hostPolicy]

/-- An execution in the workspace of the session. -/
def hostPrepared : HostPreparedV1 where
  context := { openRequest.context with
      intentId := "exec"
      operation := .hostExec
      sourceRuntimeId := some "session"
      targetRuntimeId := none }
  target := hostTarget
  policy := hostPolicy
  request := .exec ["true"] "." 1000 64
  native :=
    [{ step := "exec"
       operationId := "00000000-0000-0000-0000-000000000004"
       digest := "0000000000000000000000000000000000000000000000000000000000000000"
       method := "thinkthread.exec"
       params := execParams "child" ["true"] "." 1000 64
       effect := .mutate
       compensation := false }]

/-- The token of its admission. -/
def hostToken : HostAccessTokenV1 := hostAccess smallConfig.codec hostPrepared (0, 2)

/-- The execution has ended. -/
def hostObservation : HostObservationV1 where
  state := .completed
  settled := true
  result := .null
  transfer := none
  exec := some ⟨"exited", some 0, 0, 0, "", "", false, true⟩
  error := none
  nativeOutcome := none

/-- The execution is admitted, sent and observed. -/
def hostCalls : List Call :=
  hostOpenCalls ++ [.prepareHost hostPrepared, .claimHostStep hostToken 0,
    .recordHostStep hostToken 0 hostObservation]

end XGovernor.Joint
