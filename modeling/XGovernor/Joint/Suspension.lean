import XGovernor.Joint.Intents

/-!
# Suspension of Host operations

A Host operation is active, suspended or settled.  A suspension is recorded in the operation and
its cleanup child, the cleanup row, the fences and the journal; it ends with a token of a new
epoch, and the token it began with is worth nothing from then on.
-/

namespace XGovernor.Joint

open Domain Lib Ledger Table

variable {config : StoreConfig} {s s' : Db} {call : Call}
variable {id : String} {epoch : Nat} {access : HostAccessTokenV1} {cleanup : HostCleanupRow}

/-! ## Shapes -/

/-- No fence is held by `id`. -/
def HoldsNone (s : Db) (id : String) : Prop :=
  ∀ key fence, s.fences.get? key = some fence → fence.holder ≠ some id

/-- The operation runs: it holds the source fence at the epoch of its token. -/
structure ActiveShape (s : Db) (id : String) (h : HostIntentV1) (op : OperationRow) : Prop where
  stage : op.stage = .prepared ∨ op.stage = .accepted ∨ op.stage = .unknown
  fence : ∃ fence, s.fences.get? (.source, h.prepared.target.publicRuntimeId) = some fence ∧
    fence.holder = some id ∧ h.access.admission.sourceEpoch = some fence.epoch

/-- The operation and its cleanup child wait, and neither holds a fence. -/
structure SuspendedShape (s : Db) (id : String) (op : OperationRow) : Prop where
  stage : op.stage = .suspendedWaitingDependency
  cleanup : ∃ cleanup child, s.hostCleanup.get? id = some cleanup ∧
    cleanup.state = .waitingDependency ∧ cleanup.delegated = false ∧
    s.operations.get? cleanup.childId = some child ∧
    child.stage = .suspendedWaitingDependency ∧ HoldsNone s cleanup.childId
  free : HoldsNone s id

/-- The operation has its result and holds no fence. -/
structure SettledShape (s : Db) (id : String) (h : HostIntentV1) (op : OperationRow) : Prop where
  stage : op.stage = .settled
  result : h.result ≠ none
  free : HoldsNone s id

/-- The shape of a Host operation, with what its journal says of it. -/
inductive HostShape (s : Db) (id : String) (h : HostIntentV1) (op : OperationRow) : Prop
  | active (shape : ActiveShape s id h op) (running : h.state ≠ .suspendedWaitingDependency)
      (unpublished : h.result = none)
  | suspended (shape : SuspendedShape s id op) (waiting : h.state = .suspendedWaitingDependency)
      (unpublished : h.result = none)
  | settled (shape : SettledShape s id h op) (running : h.state ≠ .suspendedWaitingDependency)

/-! ## Holders -/

/-- Every fence is held by an operation that is not a cleanup. -/
def HoldersKnown (s : Db) : Prop :=
  ∀ key id, Holds s.ledger.fences key id →
    ∃ op, s.operations.get? id = some op ∧ op.request.context.operation ≠ .hostCleanup

theorem HoldersKnown.holdsNone (known : HoldersKnown s)
    (hcleanup : ∀ op, s.operations.get? id = some op →
      op.request.context.operation = .hostCleanup) : HoldsNone s id := by
  intro key fence hfence hholder
  obtain ⟨op, hop, hother⟩ := known key id ⟨fence, hfence, hholder⟩
  exact hother (hcleanup op hop)

theorem HoldersKnown.step {event} (known : HoldersKnown s)
    (heff : Effect config s call s') (hstep : Step s.ledger event s'.ledger)
    (sound : s.ledger.Sound) (coherent : s.ledger.Coherent) (verified : Verified s) :
    HoldersKnown s' := by
  have hstays : ∀ {id : String} {op : OperationRow}, s.operations.get? id = some op →
      op.request.context.operation ≠ .hostCleanup →
      ∃ op', s'.operations.get? id = some op' ∧ op'.request.context.operation ≠ .hostCleanup := by
    intro id op hop hother
    obtain ⟨op', hop', hcont, -⟩ := (hstep.operations sound).stays hop
    exact ⟨op', hop', hcont.request ▸ hother⟩
  intro key id hholds
  have hknown : Holds s.ledger.fences key id → ∃ op', s'.operations.get? id = some op' ∧
      op'.request.context.operation ≠ .hostCleanup := by
    intro hold
    obtain ⟨op, hop, hother⟩ := known key id hold
    exact hstays hop hother
  have hfreed : ∀ {id' : String}, s'.fences = freedFences s.fences id' →
      Holds s.ledger.fences key id := by
    intro id' hfences
    change Holds s'.fences.get? key id at hholds
    rw [hfences, freedFences_get?, holds_released_iff] at hholds
    exact hholds.1
  -- fences are taken by admissions and by a resumed operation, and none of these is a cleanup
  cases heff.fences coherent with
  | same fences => exact hknown ((keeps_of_eq fences).holds_iff.1 hholds)
  | freed _ fences | freedHost _ _ fences => exact hknown (hfreed fences)
  | @took taker_id taker keeps =>
    by_cases hid : id = taker_id
    swap
    · exact hknown ((keeps id hid).holds_iff.1 hholds)
    subst hid
    cases taker with
    | @joint request admits =>
      obtain ⟨epochs, hops, -⟩ := admits.acquires
      refine ⟨newOperationRow request epochs, ?_, ?_⟩
      · rw [hops, get?_add_self admits.fresh]
      · show request.context.operation ≠ _
        intro hcleanup
        have hord := (validRequest_of_validateRequest admits.valid).operation_known.1
        rw [hcleanup] at hord
        exact absurd hord (by decide)
    | @host prepared admits =>
      obtain ⟨epochs, _, _, hops, -⟩ := admits.admitted
      refine ⟨hostOperationRow prepared epochs, ?_, ?_⟩
      · rw [hops, get?_add_self admits.fresh]
      · show prepared.context.operation ≠ _
        rw [operation_of_verifyRequest admits.verified]
        cases prepared.request <;> simp [HostCanonicalRequestV1.operation]
    | @resumed _ h acts journal =>
      obtain ⟨op, hop, -⟩ := sound.journal _ h journal.stored
      exact hstays hop (verified.not_cleanup sound journal.stored hop)

/-! ## Cleanups -/

/-- The cleanups of two Host operations are different operations. -/
def ChildrenDistinct (s : Db) : Prop :=
  ∀ id id' cleanup cleanup', s.hostCleanup.get? id = some cleanup →
    s.hostCleanup.get? id' = some cleanup' → cleanup.childId = cleanup'.childId → id = id'

theorem ChildrenDistinct.step {event} (distinct : ChildrenDistinct s)
    (hstep : Step s.ledger event s'.ledger) (sound : s.ledger.Sound) : ChildrenDistinct s' := by
  have hfresh : ∀ {id id' : String} {old cleanup' : HostCleanupRow},
      s.hostCleanup.get? id = some old → NewCleanup s.ledger s'.ledger id' cleanup' →
      old.childId ≠ cleanup'.childId := by
    intro id id' old cleanup' hold hnew hchild
    obtain ⟨_, child, -, hsto, -⟩ := sound.cleanup id old hold
    cases hnew.fresh.symm.trans (hchild ▸ hsto)
  intro id id' cleanup cleanup' hcleanup hcleanup' hchild
  rcases hstep.cleanups.origin hcleanup with ⟨hnone, hnew⟩ | ⟨old, hold, hsame⟩ <;>
    rcases hstep.cleanups.origin hcleanup' with ⟨hnone', hnew'⟩ | ⟨old', hold', hsame'⟩
  · by_contra hne
    cases hcleanup.symm.trans ((hnew'.others id hne).trans hnone)
  · exact absurd (hsame'.symm.trans hchild.symm) (hfresh hold' hnew)
  · exact absurd (hsame.symm.trans hchild) (hfresh hold hnew')
  · exact distinct id id' old old' hold hold' (by rw [← hsame, ← hsame', hchild])

/-! ## Shapes are kept -/

/-- The child of a cleanup holds no fence. -/
private theorem HoldersKnown.child (known : HoldersKnown s) (sound : s.ledger.Sound)
    (hcleanup : s.hostCleanup.get? id = some cleanup) :
    HoldsNone s cleanup.childId := by
  refine known.holdsNone fun op hop => ?_
  obtain ⟨_, child, -, hchild, his⟩ := sound.cleanup id cleanup hcleanup
  rw [Option.mem_unique hop hchild, his.request]

private theorem HoldsNone.kept (h : HoldsNone s id)
    (hkept : Keeps s.ledger.fences s'.ledger.fences id) : HoldsNone s' id := by
  intro key fence hfence hholder
  exact h key fence ((hkept key fence hholder).1 hfence) hholder

private theorem HostShape.kept {h op} (shape : HostShape s id h op) (hkept : HostKept s s' id)
    (hchild : ∀ cleanup child, s.hostCleanup.get? id = some cleanup →
      s.operations.get? cleanup.childId = some child →
      s'.operations.get? cleanup.childId = some child) (known' : HoldersKnown s')
    (sound' : s'.ledger.Sound) : HostShape s' id h op := by
  cases shape with
  | active shape running unpublished =>
    obtain ⟨fence, hfence, hholder, hepoch⟩ := shape.fence
    exact .active ⟨shape.stage, fence, (hkept.fences _ fence hholder).2 hfence, hholder, hepoch⟩
      running unpublished
  | suspended shape waiting unpublished =>
    obtain ⟨cleanup, child, hcleanup, hwaiting, hdeleg, hchild', hstage, -⟩ := shape.cleanup
    have hcleanup' := hkept.cleanup.trans hcleanup
    exact .suspended ⟨shape.stage, ⟨cleanup, child, hcleanup', hwaiting, hdeleg,
      hchild cleanup child hcleanup hchild', hstage, known'.child sound' hcleanup'⟩,
      shape.free.kept hkept.fences⟩ waiting unpublished
  | settled shape running =>
    exact .settled ⟨shape.stage, shape.result, shape.free.kept hkept.fences⟩ running

/-- An operation of an active stage has the active shape. -/
theorem HostShape.of_active {h op} (shape : HostShape s id h op)
    (hact : activeStage op.stage = true) :
    ActiveShape s id h op ∧ h.result = none := by
  cases shape with
  | active shape _ unpublished => exact ⟨shape, unpublished⟩
  | suspended shape | settled shape => exact absurd hact (by simp [shape.stage, activeStage])

theorem HostShape.unpublished_of_suspended {h op}
    (shape : HostShape s id h op) (hsusp : op.stage = .suspendedWaitingDependency) :
    h.result = none := by
  cases shape with
  | active _ _ unpublished | suspended _ _ unpublished => exact unpublished
  | settled shape => cases shape.stage.symm.trans hsusp

private theorem holdsNone_freed (hfences : s'.fences = freedFences s.fences id) :
    HoldsNone s' id := by
  intro key fence hfence hholder
  have hholds : Holds (freedFences s.fences id).get? key id :=
    ⟨fence, hfences ▸ hfence, hholder⟩
  rw [freedFences_get?, holds_released_iff] at hholds
  exact hholds.2 rfl

section Act

variable {h h' : HostIntentV1} {op op' : OperationRow}
  (heff : Effect config s call s') (hown : call.access? = some h.access)
  (hsto : s.hostIntents.get? h.access.admission.intentId = some h)
  (hop : s.operations.get? h.access.admission.intentId = some op)
  (hsto' : s'.hostIntents.get? h.access.admission.intentId = some h')
  (hop' : s'.operations.get? h.access.admission.intentId = some op')
  (shape : HostShape s h.access.admission.intentId h op)
  (sound : s.ledger.Sound) (sound' : s'.ledger.Sound) (verified : Verified s)
  (known' : HoldersKnown s')

include heff hown hsto hop hsto' hop' shape sound sound' verified known'

/-- **Step**: a call with the token of a Host operation leaves it in one of the shapes. -/
private theorem HostShape.act : HostShape s' h.access.admission.intentId h' op' := by
  -- a call that runs an operation shows its current token, so it is this one, in the active shape
  have hact : ∀ {access : HostAccessTokenV1} {h₂ : HostIntentV1} {op₂ : OperationRow},
      call.access? = some access → s.ledger.RunsHost access h₂ op₂ →
      access = h.access ∧ h = h₂ ∧ op = op₂ ∧ ActiveShape s h.access.admission.intentId h op ∧
        h.result = none := by
    intro access h₂ op₂ hacc hruns
    obtain ⟨rfl, rfl⟩ := hruns.journal.own hacc hown hsto
    cases hop.symm.trans hruns.stored
    exact ⟨rfl, rfl, rfl, shape.of_active hruns.active⟩
  cases heff with
  | claimHost runs =>
    obtain ⟨rfl, rfl, rfl, hshape, hres⟩ := hact rfl runs
    cases hsto'.symm.trans (savedIntents_self hsto _ rfl)
    cases hop'.symm.trans (get?_modify_key_self hop _)
    exact .active ⟨.inr (.inr rfl), hshape.fence⟩ (by simp [HostIntentV1.claimed]) hres
  | recordHost runs =>
    obtain ⟨rfl, rfl, rfl, hshape, hres⟩ := hact rfl runs
    cases hsto'.symm.trans (savedIntents_self hsto _ rfl)
    cases hop'.symm.trans (get?_modify_key_self hop _)
    refine .active ⟨?_, hshape.fence⟩ ?_ hres
    -- an observation may be ambiguous: `unknown` is an active stage, too
    · show (if _ then Stage.accepted else .unknown) = _ ∨ _
      split <;> simp
    · show (if _ then HostState.executing else .unknown) ≠ _
      split <;> simp
  | recover runs =>
    obtain ⟨rfl, rfl, rfl, hshape, hres⟩ := hact rfl runs
    cases hsto'.symm.trans (savedIntents_self hsto _ rfl)
    cases hop'.symm.trans hop
    exact .active ⟨hshape.stage, hshape.fence⟩ runs.running hres
  -- the three ways out: a stale read, a published result, and a suspension give back all fences
  | failStale finishes journal =>
    obtain ⟨rfl, rfl⟩ := journal.own (access?_of_stale finishes) hown hsto
    cases hsto'.symm.trans (savedIntents_self hsto _ rfl)
    cases hop'.symm.trans (get?_modify_key_self hop _)
    exact .settled ⟨rfl, by simp [HostIntentV1.staleRead], holdsNone_freed rfl⟩
      (by simp [HostIntentV1.staleRead])
  | publishHost finishes runs =>
    obtain ⟨rfl, rfl, rfl, -⟩ := hact (access?_of_result finishes) runs
    cases hsto'.symm.trans (savedIntents_self hsto _ rfl)
    cases hop'.symm.trans (get?_modify_key_self hop _)
    refine .settled ⟨rfl, by simp [HostIntentV1.published], holdsNone_freed rfl⟩ ?_
    show (if _ then HostState.failed else .completed) ≠ _
    split <;> simp
  | @delegateCleanup _ childId _ _ _ _ runs _ fresh =>
    obtain ⟨rfl, rfl, rfl, hshape, hres⟩ := hact rfl runs
    cases hsto'.symm.trans (savedIntents_self hsto _ rfl)
    -- the cleanup is a new operation, so the row of its parent is as before
    have hne : h.access.admission.intentId ≠ childId := by
      intro heq
      rw [← heq, hop] at fresh
      exact absurd fresh (by simp)
    cases hop'.symm.trans ((get?_add_of_ne _ hne _).trans hop)
    exact .active ⟨hshape.stage, hshape.fence⟩ runs.running hres
  | @suspend _ _ _ cleanup runs _ delegated =>
    obtain ⟨rfl, rfl, rfl, -, hres⟩ := hact rfl runs
    cases hsto'.symm.trans (savedIntents_self hsto _ rfl)
    -- parent and child are suspended by one update of the table
    obtain ⟨_, child, -, hchild, -⟩ := sound.cleanup _ cleanup delegated
    change (s.operations.modify _ _).get? _ = _ at hop'
    rw [get?_modify, hop, Option.map_some, Option.some.injEq] at hop'
    have hchild' : (s.operations.modify
        (fun key _ => key = h.access.admission.intentId || key = cleanup.childId)
        fun row => { row with stage := .suspendedWaitingDependency }).get? cleanup.childId =
        some { child with stage := .suspendedWaitingDependency } := by
      simp [get?_modify, (show s.operations.get? _ = _ from hchild)]
    have hcleanup' : (s.hostCleanup.modify (fun key _ => key = h.access.admission.intentId)
        fun row => { row with state := .waitingDependency, delegated := false }).get?
        h.access.admission.intentId =
        some { cleanup with state := .waitingDependency, delegated := false } :=
      get?_modify_key_self delegated _
    exact .suspended ⟨by simp [← hop'], ⟨_, _, hcleanup', rfl, rfl, hchild', rfl,
      known'.child sound' hcleanup'⟩, holdsNone_freed rfl⟩ rfl hres
  | @resume _ _ _ _ _ _ source admission journal _ delegated _ _ source_free admission_eq stored
      op_suspended =>
    obtain ⟨rfl, rfl⟩ := journal.own rfl hown hsto
    cases hop.symm.trans stored
    -- the source fence is taken again in a new epoch, and the token is renewed with it
    have hid : admission.intentId = h.access.admission.intentId := by rw [admission_eq]
    cases hsto'.symm.trans (savedIntents_self hsto _ hid)
    have hne := Ne.symm (verified.ne_child sound hsto delegated)
    obtain rfl := Option.some.inj (hop'.symm.trans
      ((get?_modify_key_of_ne _ hne _).trans (get?_modify_key_self hop _)))
    refine .active ⟨.inr (.inl rfl), _, get?_modify_key_self source_free.1 _, rfl, ?_⟩
      (by simp [HostIntentV1.resumed]) (shape.unpublished_of_suspended op_suspended)
    show admission.sourceEpoch = some (source.epoch + 1)
    rw [admission_eq]
  | endDelegation runs _ _ delegated =>
    obtain ⟨rfl, rfl, rfl, hshape, hres⟩ := hact rfl runs
    cases hsto'.symm.trans (savedIntents_self hsto _ rfl)
    have hne := Ne.symm (verified.ne_child sound hsto delegated)
    obtain rfl := Option.some.inj (hop'.symm.trans
      ((get?_modify_key_of_ne _ hne _).trans hop))
    exact .active ⟨hshape.stage, hshape.fence⟩ runs.running hres
  | finishCleanup journal _ published =>
    obtain ⟨rfl, rfl⟩ := journal.own rfl hown hsto
    cases hsto'.symm.trans (savedIntents_self hsto _ rfl)
    cases hop'.symm.trans hop
    cases shape with
    | settled shape running => exact .settled ⟨shape.stage, shape.result, shape.free⟩ running
    | active _ _ unpublished | suspended _ _ unpublished => exact absurd unpublished published
  | quiet | cancel | dependency | intents =>
    cases hsto.symm.trans hsto'
    cases hop.symm.trans hop'
    exact shape.kept ⟨rfl, rfl, rfl, rfl, rfl, .refl _ _⟩ (fun _ _ _ hchild => hchild) known' sound'
  | _ => exact absurd hown (by simp [Call.access?])

end Act

/-! ## The invariant -/

/-- **Host operations**: each has a shape, only operations that are no cleanups hold fences, the
cleanups are different operations, and no token is ahead of its source fence. -/
structure HostsCoherent (s : Db) : Prop where
  shape : ∀ id h op, s.hostIntents.get? id = some h → s.operations.get? id = some op →
    HostShape s id h op
  holders : HoldersKnown s
  children : ChildrenDistinct s
  epochs : ∀ id h, s.hostIntents.get? id = some h → ∃ fence epoch,
    s.fences.get? (.source, h.prepared.target.publicRuntimeId) = some fence ∧
      h.access.admission.sourceEpoch = some epoch ∧ epoch ≤ fence.epoch

theorem HostsCoherent.empty : HostsCoherent Db.empty where
  shape := by simp [Db.empty]
  holders := by simp [HoldersKnown, Holds, Db.ledger, Db.empty]
  children := by simp [ChildrenDistinct, Db.empty]
  epochs := by simp [Db.empty]

section Step

variable {event : Event} (hosts : HostsCoherent s) (heff : Effect config s call s')
  (hstep : Step s.ledger event s'.ledger) (sound : s.ledger.Sound)
  (coherent : s.ledger.Coherent) (verified : Verified s)

include heff coherent verified sound in
/-- The child of a cleanup is changed only by calls with the token of its parent. -/
private theorem ChildrenDistinct.child_kept (distinct : ChildrenDistinct s) {h child}
    (hsto : s.hostIntents.get? id = some h)
    (hother : call.access? ≠ some h.access) (hcleanup : s.hostCleanup.get? id = some cleanup)
    (hchild : s.operations.get? cleanup.childId = some child) :
    s'.operations.get? cleanup.childId = some child := by
  have hhost := sound.host_of_cleanup hcleanup hchild
  rcases heff.operation_kept hchild hhost coherent with
    hkept | ⟨access, h', hacc, hjour, hid | ⟨cleanup', hcleanup', hid⟩⟩
  · exact hkept.trans hchild
  · exact absurd hid.symm (verified.ne_child sound hjour.stored hcleanup)
  · have hpar := distinct _ _ _ _ hcleanup' hcleanup hid
    refine absurd (hacc.trans ?_) hother
    rw [hjour.access_eq (hpar ▸ hsto)]

/-- A Host operation that was just admitted holds its source fence at the epoch of its token. -/
private theorem AdmitsHost.holds {prepared} (admits : AdmitsHost config s prepared s') {h' op'}
    (hsto' : s'.hostIntents.get? prepared.context.intentId = some h')
    (hop' : s'.operations.get? prepared.context.intentId = some op') :
    op'.stage = .prepared ∧ ∃ fence,
      s'.fences.get? (.source, prepared.target.publicRuntimeId) = some fence ∧
        fence.holder = some prepared.context.intentId ∧
        h'.access.admission.sourceEpoch = some fence.epoch := by
  obtain ⟨epochs, root, source, hops, hints, hsrc, -, hepochs, hfences⟩ :=
    admits.admitted
  rw [hops, get?_add_self admits.fresh] at hop'
  rw [hints, get?_add_self admits.unrecorded] at hsto'
  rw [← Option.some.inj hop', ← Option.some.inj hsto']
  have hfence : s'.fences.get? (.source, prepared.target.publicRuntimeId) = some
      { source with epoch := source.epoch + 1, holder := some prepared.context.intentId } := by
    show s'.ledger.fences _ = _
    rw [hfences]
    exact taken_self hsrc _
  refine ⟨rfl, _, hfence, rfl, ?_⟩
  show some epochs.2 = _
  rw [hepochs]

include hosts heff hstep sound coherent verified

private theorem shape_step (id h' op')
    (hsto' : s'.hostIntents.get? id = some h') (hop' : s'.operations.get? id = some op') :
    HostShape s' id h' op' := by
  have sound' := sound.step hstep
  have known' := hosts.holders.step heff hstep sound coherent verified
  rcases heff.hostIntents.origin hsto' with ⟨-, ⟨hadm, rfl⟩⟩ | ⟨h, hsto, -⟩
  · -- the call has just admitted the operation
    obtain ⟨hstage, hfence⟩ := hadm.holds hsto' hop'
    exact .active ⟨.inl hstage, hfence⟩ (by simp [newHostIntent]) rfl
  · obtain ⟨op, hop, hjour⟩ := sound.journal id h hsto
    have hid : h.access.admission.intentId = id :=
      hjour.intent.trans (sound.identified id op hop).intent
    have hshape := hosts.shape id h op hsto hop
    by_cases hown : call.access? = some h.access
    · subst hid
      exact hshape.act heff hown hsto hop hsto' hop' sound sound' verified known'
    · rcases heff.host_kept sound coherent verified hsto with hkept | hacts
      · cases hsto.symm.trans (hkept.journal.symm.trans hsto')
        have hop₂ : s.operations.get? id = some op := hop
        cases hop₂.symm.trans (hkept.operation.symm.trans hop')
        exact hshape.kept hkept (fun cleanup child hcleanup hchild =>
          hosts.children.child_kept heff sound coherent verified hsto hown hcleanup hchild)
          known' sound'
      · exact absurd hacts hown

omit coherent verified in
private theorem epochs_step (id h') (hsto' : s'.hostIntents.get? id = some h') :
    ∃ fence epoch,
    s'.fences.get? (.source, h'.prepared.target.publicRuntimeId) = some fence ∧
      h'.access.admission.sourceEpoch = some epoch ∧ epoch ≤ fence.epoch := by
  rcases heff.hostIntents.origin hsto' with ⟨-, ⟨hadm, rfl⟩⟩ | ⟨h, hsto, hmove⟩
  · obtain ⟨op', hop', -⟩ := (sound.step hstep).journal _ _ hsto'
    obtain ⟨-, fence, hfence, -, hepoch⟩ := hadm.holds hsto' hop'
    exact ⟨fence, fence.epoch, hfence, hepoch, Nat.le_refl _⟩
  · rcases hmove.access with hacc | ⟨source, hsrc, htoken, htaken⟩
    · obtain ⟨fence, epoch, hfence, hepoch, hle⟩ := hosts.epochs id h hsto
      obtain ⟨fence', hfence', -, hmono⟩ := hstep.fence_stays hfence
      exact ⟨fence', epoch, hmove.prepared ▸ hfence', hacc ▸ hepoch, hle.trans hmono⟩
    · exact ⟨_, _, hmove.prepared ▸ htaken, htoken, Nat.le_refl _⟩

theorem HostsCoherent.step : HostsCoherent s' where
  shape := shape_step hosts heff hstep sound coherent verified
  holders := hosts.holders.step heff hstep sound coherent verified
  children := hosts.children.step hstep sound
  epochs := epochs_step hosts heff hstep sound

end Step

/-- **Run**: Host operations are coherent in every database that calls lead to. -/
theorem hostsCoherent_of_storeReachable (h : StoreReachable config s) : HostsCoherent s := by
  refine h.induct .empty ?_
  intro s event s' hreach hosts hcom
  have hreached := ledger_reached hreach
  exact hosts.step (effect_of_commit hcom) (commit_refines hcom) hreached.guarded.sound
    hreached.coherent (verified_of_storeReachable hreach)

/-! ## Old tokens -/

/-- A call with a token finds the token in the journal of its operation. -/
theorem hasJournal_of_commit {event} (hcom : Commit config s event s')
    (hacc : event.1.access? = some access) :
    ∃ h, s.ledger.HasJournal access h := by
  have hchk : ∀ {α : Type} {f : HostIntentV1 → StoreTx α} {a : α},
      (checkToken config.codec access >>= f).run s = .ok (a, s') →
      ∃ h, s.ledger.HasJournal access h := by
    intro α f a hrun
    obtain ⟨h, t, hchk, -⟩ := Tx.run_bind_eq_ok.1 hrun
    exact ⟨h, (run_checkToken_eq_ok.1 hchk).1⟩
  have hint : ∀ {α : Type} {f : HostIntentV1 → StoreTx α} {a : α},
      (checkIntent config.codec access >>= f).run s = .ok (a, s') →
      ∃ h, s.ledger.HasJournal access h := by
    intro α f a hrun
    obtain ⟨h, t, hrun, -⟩ := Tx.run_bind_eq_ok.1 hrun
    obtain ⟨⟨op, hruns⟩, -⟩ := runsHost_of_checkIntent hrun
    exact ⟨h, hruns.journal⟩
  obtain ⟨call, reply⟩ := event
  cases call with
  | claimHostStep | recordHostStep | recordHostRecovery | prepareHostCleanup
  | suspendHostCleanup =>
    obtain rfl := Option.some.inj hacc
    obtain ⟨_, h, -⟩ := run_answering_eq_ok.1 hcom
    exact hint h
  | finishHost | failStaleHostRead | finishHostRead | releaseHostDependency | resumeHostCleanup
  | finishHostCleanup =>
    obtain rfl := Option.some.inj hacc
    obtain ⟨_, h, -⟩ := run_answering_eq_ok.1 hcom
    exact hchk h
  | _ => exact absurd hacc (by simp [Call.access?])

/-- The token of the operation has a later epoch. -/
def TokenAfter (s : Db) (id : String) (epoch : Nat) : Prop :=
  ∃ h epoch', s.hostIntents.get? id = some h ∧ h.access.admission.sourceEpoch = some epoch' ∧
    epoch < epoch'

/-- A token never goes back. -/
private theorem TokenAfter.step (hafter : TokenAfter s id epoch) (hosts : HostsCoherent s)
    (heff : Effect config s call s') : TokenAfter s' id epoch := by
  obtain ⟨h, epoch', hsto, hepoch', hlt⟩ := hafter
  obtain ⟨h', hsto', hmove⟩ := heff.hostIntents.stays hsto
  rcases hmove.access with hacc | ⟨source, hsrc, htoken, -⟩
  · exact ⟨h', epoch', hsto', hacc ▸ hepoch', hlt⟩
  · obtain ⟨fence, epoch'', hfence, hepoch'', hle⟩ := hosts.epochs id h hsto
    cases hsrc.symm.trans hfence
    cases hepoch'.symm.trans hepoch''
    exact ⟨h', source.epoch + 1, hsto', htoken, by omega⟩

private theorem TokenAfter.run {tr} (h : StoreReachable config s)
    (hrun : Run (Commit config) s tr s') (hafter : TokenAfter s id epoch) :
    TokenAfter s' id epoch :=
  h.run_invariant hrun (P := fun t => TokenAfter t id epoch) hafter
    fun _ _ _ hreach ht hcom =>
      ht.step (hostsCoherent_of_storeReachable hreach) (effect_of_commit hcom)

/-- A resumption puts the token of its operation after the one it was made with. -/
private theorem tokenAfter_of_resume {old reply}
    (hosts : HostsCoherent s) (hcom : Commit config s (.resumeHostCleanup old, reply) s') :
    ∃ epoch, old.admission.sourceEpoch = some epoch ∧
      TokenAfter s' old.admission.intentId epoch := by
  obtain ⟨_, hrun, -⟩ := run_answering_eq_ok.1 hcom
  obtain ⟨-, h, h', source, hjour, hsrc, hsto', htoken⟩ := resumeHostCleanup_resumes hrun
  obtain ⟨fence, epoch, hfence, hepoch, hle⟩ := hosts.epochs _ h hjour.stored
  cases hsrc.symm.trans hfence
  rw [hjour.token] at hepoch
  exact ⟨epoch, hepoch, h', source.epoch + 1, hsto', htoken, by omega⟩

/-- A call with a token that was replaced fails. -/
private theorem TokenAfter.fails (hepoch : access.admission.sourceEpoch = some epoch)
    (hafter : TokenAfter s access.admission.intentId epoch) (hacc : call.access? = some access) :
    ∃ error, (exec config call).run s = .error error := by
  cases hrun : (exec config call).run s with
  | error error => exact ⟨error, rfl⟩
  | ok result =>
    have hcom : Commit config s (call, result.1) result.2 := hrun
    obtain ⟨h, hjour⟩ := hasJournal_of_commit hcom hacc
    obtain ⟨h', epoch', hsto, hepoch', hlt⟩ := hafter
    rw [hjour.access_eq hsto, hepoch, Option.some.injEq] at hepoch'
    omega

/-! ## Host operations -/

/-- **Suspension of Host operations**: every Host operation has exactly one of the three shapes,
and once a suspended cleanup was resumed every call with the token it was resumed with fails,
so that its transaction is rolled back. -/
theorem host_operations_shaped (h : StoreReachable config s) :
    (∀ id host, s.hostIntents.get? id = some host → ∃ op, s.operations.get? id = some op ∧
      (ActiveShape s id host op ∧ ¬ SuspendedShape s id op ∧ ¬ SettledShape s id host op ∨
        ¬ ActiveShape s id host op ∧ SuspendedShape s id op ∧ ¬ SettledShape s id host op ∨
        ¬ ActiveShape s id host op ∧ ¬ SuspendedShape s id op ∧ SettledShape s id host op)) ∧
    ∀ old new s', Commit config s (.resumeHostCleanup old, .access new) s' →
      ∀ tr t, Run (Commit config) s' tr t → ∀ call, call.access? = some old →
        ∃ error, (exec config call).run t = .error error := by
  have hosts := hostsCoherent_of_storeReachable h
  constructor
  · intro id host hsto
    obtain ⟨op, hop, -⟩ := (ledger_reached h).guarded.sound.journal id host hsto
    refine ⟨op, hop, ?_⟩
    cases hosts.shape id host op hsto hop with
    | active shape =>
      have hstage := shape.stage
      refine .inl ⟨shape, fun hshape => ?_, fun hshape => ?_⟩ <;> simp [hshape.stage] at hstage
    | suspended shape =>
      refine .inr (.inl ⟨fun hshape => ?_, shape, fun hshape => ?_⟩)
      · exact absurd hshape.stage (by simp [shape.stage])
      · exact absurd hshape.stage (by simp [shape.stage])
    | settled shape =>
      refine .inr (.inr ⟨fun hshape => ?_, fun hshape => ?_, shape⟩)
      · exact absurd hshape.stage (by simp [shape.stage])
      · exact absurd hshape.stage (by simp [shape.stage])
  · intro old new s' hcom tr t hrun call hacc
    obtain ⟨epoch, hepoch, hafter⟩ := tokenAfter_of_resume hosts hcom
    have hreach' : StoreReachable config s' := h.run (Run.nil.snoc hcom)
    exact (hafter.run hreach' hrun).fails hepoch hacc

/-- The cleanup of the execution waits for a dependency. -/
def suspendedCalls : List Call :=
  hostCalls ++ [.prepareHostCleanup hostToken "cleanup" ["dependency"],
    .suspendHostCleanup hostToken]

private def grantsAccess : Except StoreError (Reply × Db) → Bool
  | .ok (.access _, _) => true
  | _ => false

/-- While its cleanup waits, the execution is suspended. When the dependency is released it is
resumed, and from then on its first token is refused. -/
theorem host_operations_of_suspended :
    let s := execAll smallConfig suspendedCalls Db.empty
    let t := execAll smallConfig
      (suspendedCalls ++ [.releaseHostDependency hostToken "dependency"]) Db.empty
    (∃ op, s.operations.get? "exec" = some op ∧ SuspendedShape s "exec" op) ∧
    ∃ new t', Commit smallConfig t (.resumeHostCleanup hostToken, .access new) t' ∧
      ∃ error, (exec smallConfig (.finishHostCleanup hostToken)).run t' = .error error := by
  intro s t
  constructor
  · have hsto : (s.hostIntents.get? "exec").isSome = true := by decide +kernel
    have hstage : (s.operations.get? "exec").all
        (fun op => op.stage = .suspendedWaitingDependency) = true := by decide +kernel
    obtain ⟨host, hhost⟩ := Option.isSome_iff_exists.1 hsto
    obtain ⟨op, hop, hshapes⟩ :=
      (host_operations_shaped (storeReachable_execAll smallConfig suspendedCalls)).1 "exec" host
        hhost
    have hstage : op.stage = .suspendedWaitingDependency := by
      rw [show s.operations.get? "exec" = some op from hop] at hstage
      exact of_decide_eq_true hstage
    refine ⟨op, hop, ?_⟩
    rcases hshapes with ⟨hshape, -⟩ | ⟨-, hshape, -⟩ | ⟨-, -, hshape⟩
    · exact absurd hshape.stage (by simp [hstage])
    · exact hshape
    · exact absurd hshape.stage (by simp [hstage])
  · have hresumes : grantsAccess ((exec smallConfig (.resumeHostCleanup hostToken)).run t) =
        true := by decide +kernel
    unfold grantsAccess at hresumes
    split at hresumes
    · rename_i new t' hrun
      refine ⟨new, t', hrun, ?_⟩
      exact (host_operations_shaped (storeReachable_execAll smallConfig _)).2 hostToken new t' hrun
        [] t' .nil _ rfl
    · exact absurd hresumes (by simp)

end XGovernor.Joint
