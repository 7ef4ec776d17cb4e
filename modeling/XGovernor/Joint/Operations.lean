import XGovernor.Joint.LedgerStep

/-!
# Operations of the ledger

The identity of an operation is fixed by its admission: its request, its binding and
whether it has a source fence never change, and every native step, reservation, journal and
cleanup belongs to one.  `Sound` collects these facts; the invariants of the store rest on
them.
-/

namespace XGovernor.Joint.Ledger

open Domain Lib Function Table

variable {L L' : Ledger} {event : Event}
variable {op op' : OperationRow} {id : String} {h : HostIntentV1} {child : OperationRow}
  {cleanup : HostCleanupRow} {key : String × String} {h' : HostIntentV1}

/-- The row of an operation belongs to its id, and its token agrees with its request. -/
structure Identified (id : String) (op : OperationRow) : Prop where
  intent : op.admission.intentId = id
  binding : op.admission.binding = op.request.binding
  epoch : op.admission.sourceEpoch = none ↔ op.request.exclusiveRoot = true

/-- The same operation at a later time: only its stage, its publication and the epochs in its
token may differ. -/
structure Continues (op op' : OperationRow) : Prop where
  request : op'.request = op.request
  intent : op'.admission.intentId = op.admission.intentId
  binding : op'.admission.binding = op.admission.binding
  generation : op'.admission.generation = op.admission.generation
  epoch : op'.admission.sourceEpoch = none ↔ op.admission.sourceEpoch = none

theorem Continues.refl (op) : Continues op op :=
  ⟨rfl, rfl, rfl, rfl, .rfl⟩

theorem Continues.trans {op''} (h : Continues op op') (h' : Continues op' op'') :
    Continues op op'' :=
  ⟨h'.request.trans h.request, h'.intent.trans h.intent, h'.binding.trans h.binding,
    h'.generation.trans h.generation, h'.epoch.trans h.epoch⟩

theorem Continues.identified (h : Continues op op') (hop : Identified id op) :
    Identified id op' where
  intent := h.intent.trans hop.intent
  binding := by rw [h.binding, hop.binding, h.request]
  epoch := by rw [h.epoch, hop.epoch, h.request]

/-- The journal of a Host operation. -/
structure IsJournalOf (op : OperationRow) (h : HostIntentV1) : Prop where
  request : op.request = hostJointRequest h.prepared
  intent : h.access.admission.intentId = op.admission.intentId
  binding : h.access.admission.binding = op.admission.binding
  generation : h.access.admission.generation = op.admission.generation
  host : op.request.context.operation.isHost = true

/-- The child operation of a cleanup has its parent's request and token under its own id. -/
structure IsCleanupOf (op : OperationRow) (childId : String) (child : OperationRow) : Prop where
  request : child.request =
    { op.request with
      context := { op.request.context with intentId := childId, operation := .hostCleanup }
      native := [] }
  binding : child.admission.binding = op.admission.binding
  generation : child.admission.generation = op.admission.generation
  epoch : child.admission.sourceEpoch = none ↔ op.admission.sourceEpoch = none

theorem Continues.isJournalOf (hcont : Continues op op') (hop : IsJournalOf op h) :
    IsJournalOf op' h where
  request := hcont.request.trans hop.request
  intent := hop.intent.trans hcont.intent.symm
  binding := hop.binding.trans hcont.binding.symm
  generation := hop.generation.trans hcont.generation.symm
  host := by
    rw [hcont.request]
    exact hop.host

theorem Continues.isCleanupOf {child' childId}
    (hop : Continues op op') (hchild : Continues child child') (h : IsCleanupOf op childId child) :
    IsCleanupOf op' childId child' where
  request := by rw [hchild.request, h.request, hop.request]
  binding := by rw [hchild.binding, h.binding, hop.binding]
  generation := by rw [hchild.generation, h.generation, hop.generation]
  epoch := by rw [hchild.epoch, h.epoch, hop.epoch]

/-- **Soundness**: everything in the ledger belongs to an operation that was admitted. -/
structure Sound (L : Ledger) : Prop where
  identified : ∀ id op, L.operations id = some op → Identified id op
  step_owner : ∀ id step row, L.steps (id, step) = some row → ∃ op, L.operations id = some op
  reservation_owner : ∀ id kind row, L.reservations (id, kind) = some row →
    ∃ op, L.operations id = some op
  journal : ∀ id h, L.hosts id = some h → ∃ op, L.operations id = some op ∧ IsJournalOf op h
  cleanup : ∀ id row, L.cleanups id = some row → ∃ op child, L.operations id = some op ∧
    L.operations row.childId = some child ∧ IsCleanupOf op row.childId child
  /-- The native steps of a Host operation report no objects. -/
  bare : ∀ id step op row outcome, L.operations id = some op →
    op.request.context.operation.isHost = true → L.steps (id, step) = some row →
    row.outcome = some outcome → outcome.resources = []

theorem Sound.empty : Sound Ledger.empty where
  identified := by simp [Ledger.empty]
  step_owner := by simp [Ledger.empty]
  reservation_owner := by simp [Ledger.empty]
  journal := by simp [Ledger.empty]
  cleanup := by simp [Ledger.empty]
  bare := by simp [Ledger.empty]

/-! ## Operations stay -/

/-- How an operation came to be admitted: it took its fence, or it is the child of a settled
Host operation and runs under its parent's fence. -/
inductive Admitted (L L' : Ledger) (id : String) : OperationRow → Prop
  | ordinary {request epochs} (valid : ValidRequest request) (id_eq : id = request.context.intentId)
      (acquires : Acquires L.fences request id (tenantKey request.context.tenantId) epochs.1
        epochs.2 L'.fences)
      (created : request.context.operation.creates = true →
        L'.bindings request.binding.bindingId = some (newBindingRow request))
      (live : ∃ row, L'.bindings request.binding.bindingId = some row ∧ row.state ≠ .removed) :
      Admitted L L' id (newOperationRow request epochs)
  | host {prepared epochs} (operation_eq : prepared.context.operation = prepared.request.operation)
      (id_eq : id = prepared.context.intentId)
      (free : FreeFor L.fences (hostJointRequest prepared))
      (rooted : ∃ source, L'.fences (.source, prepared.target.publicRuntimeId) = some source ∧
        source.rootId = prepared.target.rootId)
      (live : ∃ row, L'.bindings prepared.target.liveBinding.bindingId = some row ∧
        row.state ≠ .removed) :
      Admitted L L' id (hostOperationRow prepared epochs)
  | cleanup {access h op} (runs : L.RunsHost access h op) (settled : allSettled h = true)
      (bindings_eq : L'.bindings = L.bindings) :
      Admitted L L' id (cleanupOperationRow op access h id)

private theorem hostFreeFor {fences prepared root source}
    (hroot : fences (.root, prepared.target.rootId) = some root) (hroot_free : root.holder = none)
    (hsrc : ensured fences (.source, prepared.target.publicRuntimeId) prepared.target.rootId
      prepared.target.tenantKey (.source, prepared.target.publicRuntimeId) = some source)
    (hsource_free : source.holder = none) : FreeFor fences (hostJointRequest prepared) where
  root := by
    intro fence hfence
    rw [Option.mem_unique hfence hroot]
    exact hroot_free
  sources := by
    intro hexcl
    exact Bool.noConfusion hexcl
  source := by
    intro _ fence hfence
    rw [Option.mem_unique (ensured_of_some hfence) hsrc]
    exact hsource_free

/-- The binding goes to another state. -/
structure Goes (L L' : Ledger) (bindingId : String) (row : BindingRow) (state : BindingState) :
    Prop where
  before : L.bindings bindingId = some row
  after : L'.bindings bindingId = some { row with state }

/-- How a step may move the stage of an operation. -/
inductive StageMove (L L' : Ledger) (id : String) (op : OperationRow) : Stage → Prop
  | same : StageMove L L' id op op.stage
  /-- A claim or a report. -/
  | advanced {stage}
      (running : [Stage.prepared, .accepted, .unknown, .releasing, .compensating].contains
        op.stage = true)
      (next : stage = .unknown ∨ stage = .accepted) :
      StageMove L L' id op (advanced op stage).stage
  | host {stage} (host : op.request.context.operation.isHost = true)
      (live : stage ≠ .released ∧ stage ≠ .compensated) : StageMove L L' id op stage
  | settled (turn : op.request.context.operation = .turn)
      (freed : L'.fences = released L.fences id) : StageMove L L' id op .settled
  | published {row} (ready : op.stage = .prepared ∨ op.stage = .accepted)
      (goes : Goes L L' op.admission.binding.bindingId row .active)
      (prepared : row.state = .prepared) (freed : L'.fences = released L.fences id) :
      StageMove L L' id op .published
  | compensating {row} (ready : op.stage = .prepared ∨ op.stage = .accepted ∨ op.stage = .unknown)
      (goes : Goes L L' op.admission.binding.bindingId row .compensating)
      (prepared : row.state = .prepared) : StageMove L L' id op .compensating
  | compensated {row} (goes : Goes L L' op.admission.binding.bindingId row .removed)
      (unpublished : row.state = .prepared ∨ row.state = .compensating)
      (creation : row.creationIntent = id) (freed : L'.fences = released L.fences id) :
      StageMove L L' id op .compensated
  /-- The operation that created the binding, or the one that releases it. -/
  | released {bindingId row} (goes : Goes L L' bindingId row .removed)
      (releasing : row.state = .releasing)
      (role : row.creationIntent = id ∨ op.request.context.operation.releases = true ∧
        op.stage ≠ .released ∧ op.admission.binding.bindingId = bindingId ∧
        L'.fences = Ledger.released L.fences id) :
      StageMove L L' id op .released

/-- A resumed operation gets a token with new epochs, and it had a source epoch before. -/
private theorem resumed_continues {admission} (hint : admission.intentId = op.admission.intentId)
    (hbind : admission.binding = op.admission.binding)
    (hgen : admission.generation = op.admission.generation)
    (hold : op.admission.sourceEpoch ≠ none) (hnew : admission.sourceEpoch ≠ none) (stage) :
    Continues op { op with stage, admission } where
  request := rfl
  intent := hint
  binding := hbind
  generation := hgen
  epoch := by simp [hold, hnew]

/-- A Host operation has a source fence, not the Root's. -/
theorem Sound.source_of_journal (sound : L.Sound) (hop : L.operations id = some op)
    (hjour : IsJournalOf op h) :
    op.admission.sourceEpoch ≠ none := by
  intro hnone
  have hexcl := (sound.identified id op hop).epoch.1 hnone
  rw [hjour.request] at hexcl
  exact Bool.noConfusion hexcl

/-- The operation of a stored journal. -/
theorem Sound.journal_of (sound : L.Sound) (hsto : L.hosts id = some h)
    (hop : L.operations id = some op) :
    IsJournalOf op h := by
  obtain ⟨op', hop', hjour⟩ := sound.journal id h hsto
  cases hop'.symm.trans hop
  exact hjour

private theorem resumed_evolves (sound : L.Sound) {access access' : HostAccessTokenV1}
    {old : OperationRow} {source root : Nat} (hjour : L.HasJournal access h)
    (hdeleg : L.cleanups access.admission.intentId = some cleanup)
    (hold : L.operations access.admission.intentId = some old)
    (hdist : cleanup.childId ≠ access.admission.intentId)
    (hchild : L.operations cleanup.childId = some child) (heq : access'.admission =
      { access.admission with sourceEpoch := some source, rootEpoch := root }) :
    Evolves L.operations (update
        (update L.operations access.admission.intentId
          (some { old with stage := .accepted, admission := access'.admission }))
        cleanup.childId
        (some { child with
          stage := .accepted
          admission := { access'.admission with intentId := cleanup.childId } }))
      (Admitted L L') fun id op op' => Continues op op' ∧ StageMove L L' id op op'.stage := by
  have hjournal_of := sound.journal_of hjour.stored hold
  have hsrc := sound.source_of_journal hold hjournal_of
  obtain ⟨old', child', hold', hchild', hcleanup⟩ := sound.cleanup _ _ hdeleg
  cases hold.symm.trans hold'
  cases hchild.symm.trans hchild'
  have hint := hjournal_of.intent
  have hbind := hjournal_of.binding
  have hgen := hjournal_of.generation
  rw [hjour.token] at hint hbind hgen
  -- the token of the parent and that of the child get the same epochs
  have hpar : Continues old
      { old with stage := .accepted, admission := access'.admission } :=
    resumed_continues (by simpa [heq] using hint) (by simpa [heq] using hbind)
      (by simpa [heq] using hgen) hsrc (by simp [heq]) .accepted
  have hresumed : Continues child { child with
      stage := .accepted
      admission := { access'.admission with intentId := cleanup.childId } } :=
    resumed_continues (sound.identified _ _ hchild).intent.symm
      (by simpa [heq, hcleanup.binding] using hbind)
      (by simpa [heq, hcleanup.generation] using hgen)
      (hcleanup.epoch.not.2 hsrc) (by simp [heq]) .accepted
  have hchild_host : child.request.context.operation.isHost = true := by
    rw [hcleanup.request]
    rfl
  -- both are Host operations, which are accepted again
  refine Evolves.mono (show Evolves _ _ _ fun _ op op' => Continues op op' ∧ (op' = op ∨
    op.request.context.operation.isHost = true ∧ op'.stage = .accepted) from .trans ?_ (.move
      (fun _ op => ⟨.refl op, .inl rfl⟩) hold ⟨hpar, .inr ⟨hjournal_of.host, rfl⟩⟩) (.move
        (fun _ op => ⟨.refl op, .inl rfl⟩) ((update_of_ne hdist _ _).trans hchild)
          ⟨hresumed, .inr ⟨hchild_host, rfl⟩⟩)) ?_
  · rintro _ op op' op'' ⟨hop, hstage⟩ ⟨hop', rfl | ⟨hhost, hstage'⟩⟩
    · exact ⟨hop, hstage⟩
    · exact ⟨hop.trans hop', .inr ⟨hop.request ▸ hhost, hstage'⟩⟩
  · rintro id op op' ⟨hop, rfl | ⟨hhost, hstage⟩⟩
    · exact ⟨hop, .same⟩
    · exact ⟨hop, hstage ▸ .host hhost ⟨nofun, nofun⟩⟩

private theorem reporting_of_sending {stage}
    (h : [Stage.prepared, .accepted, .unknown, .compensating].contains stage = true) :
    [Stage.prepared, .accepted, .unknown, .releasing, .compensating].contains stage = true := by
  cases stage <;> first | rfl | exact h

/-- The child operation of a cleanup is a Host operation. -/
theorem Sound.host_of_cleanup (sound : L.Sound) (hcleanup : L.cleanups id = some cleanup)
    (hchild : L.operations cleanup.childId = some child) :
    child.request.context.operation.isHost = true := by
  obtain ⟨_, child', -, hchild', his⟩ := sound.cleanup id cleanup hcleanup
  cases hchild.symm.trans hchild'
  rw [his.request]
  rfl

/-- **Operations stay**: a step never drops an operation or changes its identity, and an operation
that it adds was admitted by it. -/
theorem Step.operations (h : Step L event L') (sound : L.Sound) :
    Evolves L.operations L'.operations (Admitted L L') fun id op op' =>
      Continues op op' ∧ StageMove L L' id op op'.stage := by
  have hrefl : ∀ (id : String) (op : OperationRow),
      Continues op op ∧ StageMove L L' id op op.stage := fun _ op => ⟨.refl op, .same⟩
  -- a suspension and a release restage two operations at once
  have hrestaged : ∀ {ids : List String} {stage : Stage},
      L'.operations = restaged L.operations ids stage → (∀ id op, id ∈ ids →
        L.operations id = some op → StageMove L L' id op stage) →
      Evolves L.operations L'.operations (Admitted L L') fun id op op' =>
        Continues op op' ∧ StageMove L L' id op op'.stage := by
    intro ids stage hops hids
    rw [hops]
    refine .map fun id op hop => ?_
    split
    · exact ⟨⟨rfl, rfl, rfl, rfl, .rfl⟩, hids id op ‹_› hop⟩
    · exact hrefl id op
  cases h with
  | internal | append | noteHost | prepareCancel | claimCancel | recordCancel => exact .refl hrefl
  | admitNew valid _ fresh _ _ acquires =>
    exact .add hrefl fresh (.ordinary valid rfl acquires (fun _ => update_self ..)
      ⟨_, update_self .., by simp [newBindingRow]⟩)
  | admitExisting valid creates fresh bound active _ _ _ _ acquires =>
    refine .add hrefl fresh (.ordinary valid rfl acquires
      (fun hcreates => by simp [creates] at hcreates) ?_)
    dsimp only
    split
    · exact ⟨_, bound, by simp [active]⟩
    · exact ⟨_, update_self .., by simp⟩
  | admitHost _ operation_eq _ fresh _ _ live _ _ root_fence root_free source_fence source_root
      source_free =>
    obtain ⟨row, hrow, hact, -⟩ := live
    refine .add hrefl fresh (.host operation_eq rfl ?_
      ⟨_, taken_self source_fence _, source_root⟩ ⟨row, hrow, by simp [hact]⟩)
    exact hostFreeFor root_fence root_free source_fence source_free
  | delegateCleanup _ runs settled fresh => exact .add hrefl fresh (.cleanup runs settled rfl)
  | dispatch runs sending =>
    exact .move hrefl runs.stored ⟨⟨rfl, rfl, rfl, rfl, .rfl⟩,
      .advanced (reporting_of_sending sending) (.inl rfl)⟩
  | record runs reporting _ _ next =>
    exact .move hrefl runs.stored ⟨⟨rfl, rfl, rfl, rfl, .rfl⟩, .advanced reporting next⟩
  | publish _ runs _ ready _ bound prepared =>
    refine .move hrefl runs.stored ⟨⟨rfl, rfl, rfl, rfl, .rfl⟩, .published ready ?_ prepared rfl⟩
    rw [runs.token]
    exact ⟨bound, update_self ..⟩
  | settleTurn runs turn =>
    exact .move hrefl runs.stored ⟨⟨rfl, rfl, rfl, rfl, .rfl⟩, .settled turn rfl⟩
  | beginCompensation runs ready bound prepared =>
    refine .move hrefl runs.stored ⟨⟨rfl, rfl, rfl, rfl, .rfl⟩, .compensating ready ?_ prepared⟩
    rw [runs.token]
    exact ⟨bound, update_self ..⟩
  | finishCompensation runs _ bound unpublished creation =>
    refine .move hrefl runs.stored ⟨⟨rfl, rfl, rfl, rfl, .rfl⟩,
      .compensated ?_ unpublished creation rfl⟩
    rw [runs.token]
    exact ⟨bound, update_self ..⟩
  | release runs releases _ unfinished _ bound releasing =>
    refine hrestaged rfl fun id op hmem hop => .released ⟨bound, update_self ..⟩ releasing ?_
    -- the creation that is being removed, and the operation that removes it
    rcases List.mem_pair.1 hmem with rfl | rfl
    · exact .inl rfl
    · cases runs.stored.symm.trans hop
      exact .inr ⟨releases, unfinished, by rw [runs.token], rfl⟩
  | claimHost _ runs =>
    exact .move hrefl runs.stored ⟨⟨rfl, rfl, rfl, rfl, .rfl⟩,
      .host (sound.journal_of runs.journal.stored runs.stored).host ⟨nofun, nofun⟩⟩
  | recordHost _ runs _ _ _ next =>
    refine .move hrefl runs.stored ⟨⟨rfl, rfl, rfl, rfl, .rfl⟩,
      .host (sound.journal_of runs.journal.stored runs.stored).host ?_⟩
    rcases next with rfl | rfl <;> exact ⟨nofun, nofun⟩
  | settleHost _ _ stored _ journal =>
    exact .move hrefl stored ⟨⟨rfl, rfl, rfl, rfl, .rfl⟩,
      .host (sound.journal_of journal.stored stored).host ⟨nofun, nofun⟩⟩
  | suspendCleanup _ runs _ delegated =>
    refine hrestaged rfl fun id op hmem hop => .host ?_ ⟨nofun, nofun⟩
    rcases List.mem_pair.1 hmem with rfl | rfl
    · exact (sound.journal_of runs.journal.stored hop).host
    · exact sound.host_of_cleanup delegated hop
  | endDelegation _ _ _ delegated =>
    refine hrestaged rfl fun id op hmem hop => .host ?_ ⟨nofun, nofun⟩
    obtain rfl := List.mem_singleton.1 hmem
    exact sound.host_of_cleanup delegated hop
  | resumeCleanup _ journal _ delegated _ _ _ _ stored _ distinct child_stored _ admission_eq =>
    exact resumed_evolves sound journal delegated stored distinct child_stored admission_eq

/-- The binding of an operation that is being admitted is not removed. -/
theorem Admitted.live (h : Admitted L L' id op) :
    ∃ row, L'.bindings op.admission.binding.bindingId = some row ∧ row.state ≠ .removed := by
  cases h with
  | ordinary _ _ _ _ live => exact live
  | host _ _ _ _ live => exact live
  | cleanup runs _ bindings_eq =>
    obtain ⟨row, hrow, -, hlive⟩ := runs.fenced.binding
    exact ⟨row, bindings_eq ▸ hrow, hlive⟩

/-! ## Native steps -/

/-- The operation a step writes native steps for: it runs, or it is being admitted. -/
inductive WorksFor (L L' : Ledger) (id : String) : Prop
  | running {admission op} (runs : L.Runs admission op) (intent : admission.intentId = id)
  | admitted {op' : OperationRow} (fresh : L.operations id = none)
      (stored : L'.operations id = some op')

/-- What a step may record for a native step over what was recorded before. -/
inductive Reports (L : Ledger) (id : String) (old : Option JointNativeOutcome)
    (new : JointNativeOutcome) : Prop
  /-- The message is about to leave. -/
  | sent (unsent : old = none) (bare : new.resources = [])
  | ordinary {op : OperationRow} (stored : L.operations id = some op)
      (ordinary : op.request.context.operation.isHost = false)
      (unsettled : ∀ o, old = some o → o.state.isTerminal = false)
      (retained : ∀ o, old = some o → o.resources <+: new.resources)
  /-- A Host operation owns no objects; a terminal report is repeated as it is. -/
  | host {h : HostIntentV1} (journal : L.hosts id = some h) (bare : new.resources = [])
      (immutable : ∀ o, old = some o → o.state.isTerminal = true →
        o.state = new.state ∧ o.payload = new.payload)

/-- A native step at a later time. -/
inductive StepMove (L L' : Ledger) (key : String × String) (row : StepRow) : StepRow → Prop
  | same : StepMove L L' key row row
  | reported {outcome : JointNativeOutcome} (works : WorksFor L L' key.1)
      (reports : Reports L key.1 row.outcome outcome) :
      StepMove L L' key row { row with outcome := some outcome }

theorem StepMove.works {row row' : StepRow}
    (h : StepMove L L' key row row') : row' = row ∨ WorksFor L L' key.1 := by
  cases h with
  | same => exact .inl rfl
  | reported works => exact .inr works

/-- Once it has an outcome it keeps one. -/
theorem StepMove.outcome {row row' : StepRow}
    (h : StepMove L L' key row row') (hsent : row.outcome ≠ none) : row'.outcome ≠ none := by
  cases h with
  | same => exact hsent
  | reported => simp

/-- A native step that is added has no outcome. -/
structure NewStep (L L' : Ledger) (key : String × String) (row' : StepRow) : Prop where
  works : WorksFor L L' key.1
  unsent : row'.outcome = none

/-- **Native steps stay**: a step writes the native steps of one operation, which runs or is being
admitted, and never takes an outcome back. -/
theorem Step.steps (h : Step L event L') :
    Evolves L.steps L'.steps (NewStep L L') (StepMove L L') := by
  have hrefl : ∀ key row, StepMove L L' key row row := fun _ _ => .same
  have hadds : ∀ {id : String} {natives : List JointNativeIntent},
      AddsSteps L.steps L'.steps id natives → WorksFor L L' id →
      Evolves L.steps L'.steps (NewStep L L') (StepMove L L') := by
    intro id natives hadds hworks
    refine .ofGrows hrefl hadds.toGrows fun key row hnew => ?_
    exact ⟨hnew.1 ▸ hworks, hnew.2.2.2⟩
  -- a Host operation reports by a predicate on keys, for it may have no native step at all
  have hreported : ∀ {p : String × String → StepRow → Prop} [∀ key row, Decidable (p key row)]
      {outcome : JointNativeOutcome}, L'.steps = (fun key => (L.steps key).map fun row =>
        if p key row then { row with outcome := some outcome } else row) →
      (∀ key row, L.steps key = some row → p key row →
        StepMove L L' key row { row with outcome := some outcome }) →
      Evolves L.steps L'.steps (NewStep L L') (StepMove L L') := by
    intro p _ outcome hsteps hmove
    rw [hsteps]
    refine .map fun key row hrow => ?_
    split
    · exact hmove key row hrow ‹_›
    · exact hrefl key row
  cases h with
  | admitNew _ _ fresh _ _ _ adds_steps | admitExisting _ _ fresh _ _ _ _ _ _ _ adds_steps
  | admitHost _ _ _ fresh _ _ _ _ _ _ _ _ _ _ _ adds_steps =>
    exact hadds adds_steps (.admitted fresh (update_self ..))
  | dispatch runs _ stored unclaimed =>
    exact .move hrefl stored (.reported (.running runs.toRuns rfl) (.sent unclaimed rfl))
  | append runs free => exact .add hrefl free ⟨.running runs.toRuns rfl, rfl⟩
  | record runs _ stored unsettled _ retained =>
    exact .move hrefl stored (.reported (.running runs.toRuns rfl)
      (.ordinary runs.stored runs.ordinary unsettled retained))
  | @claimHost access h _ _ index runs =>
    by_cases hread : h.prepared.request.isRead = true
    · exact .of_eq hrefl (if_pos hread)
    · refine hreported (if_neg hread) fun key row _ hclaim => ?_
      obtain ⟨n, -, hkey⟩ := (Option.any_eq_true _ _).1 hclaim.1
      obtain rfl := of_decide_eq_true hkey
      exact .reported (.running runs.toRuns rfl) (.sent hclaim.2 rfl)
  | recordHost _ runs _ _ _ _ immutable =>
    refine hreported rfl fun key row hrow hrep => ?_
    obtain ⟨n, hn, hkey⟩ := (Option.any_eq_true _ _).1 hrep
    obtain rfl := of_decide_eq_true hkey
    obtain ⟨row', outcome, hrow', hout, hstate⟩ := immutable n hn
    cases hrow.symm.trans hrow'
    refine .reported (.running runs.toRuns rfl) (.host runs.journal.stored rfl fun o ho => ?_)
    cases ho.symm.trans hout
    exact hstate
  | _ => exact .refl hrefl

/-! ## Journals -/

/-- The journal of a Host operation at a later time. -/
structure HostMove (id : String) (h h' : HostIntentV1) : Prop where
  prepared : h'.prepared = h.prepared
  intent : h'.access.admission.intentId = h.access.admission.intentId
  binding : h'.access.admission.binding = h.access.admission.binding
  generation : h'.access.admission.generation = h.access.admission.generation
  /-- An observed step stays observed. -/
  observed : ∀ (i : Nat) (o : HostObservationV1), h.observations[i]? = some (some o) →
    ∃ o' : HostObservationV1, h'.observations[i]? = some (some o')

/-- A journal that is added is the one of an operation that is added with its native steps. -/
structure NewHost (L' : Ledger) (id : String) (h' : HostIntentV1) : Prop where
  journal : ∃ op', L'.operations id = some op' ∧ IsJournalOf op' h'
  natives : ∀ n ∈ h'.prepared.native, ∃ row, L'.steps (id, n.step) = some row

theorem isHost_operation (request : HostCanonicalRequestV1) :
    request.operation.isHost = true := by
  cases request <;> rfl

private theorem hostMove_of_eq (hprep : h'.prepared = h.prepared)
    (hacc : h'.access = h.access) (hobs : h'.observations = h.observations) :
    HostMove id h h' := by
  refine ⟨hprep, ?_, ?_, ?_, fun i o ho => ⟨o, hobs ▸ ho⟩⟩ <;> rw [hacc]

private theorem hostMove_of_set {index new}
    (hprep : h'.prepared = h.prepared) (hacc : h'.access = h.access)
    (hobs : h'.observations = h.observations.set index (some new)) :
    HostMove id h h' := by
  refine ⟨hprep, by rw [hacc], by rw [hacc], by rw [hacc], fun i o ho => ?_⟩
  rw [hobs]
  by_cases hi : index = i
  · subst hi
    exact ⟨new, List.getElem?_set_self (List.getElem?_eq_some_iff.1 ho).1⟩
  · exact ⟨o, by rw [List.getElem?_set_ne hi, ho]⟩

/-- **Journals stay**: a step never drops a journal or changes whose it is. -/
theorem Step.hosts (hstep : Step L event L') :
    Evolves L.hosts L'.hosts (NewHost L') HostMove := by
  have hrefl : ∀ id h, HostMove id h h := fun _ _ => hostMove_of_eq rfl rfl rfl
  cases hstep with
  | @admitHost prepared epochs host _ _ _ _ operation_eq _ _ _ unrecorded _ _ _ _ _ _ _ _ _
      adds_steps host_prepared host_admission =>
    refine .add hrefl unrecorded ⟨⟨_, update_self .., host_prepared ▸ rfl, ?_, ?_, ?_, ?_⟩,
      fun n hn => ⟨_, adds_steps.added n (host_prepared ▸ hn)⟩⟩
    · rw [host_admission]
      rfl
    · rw [host_admission]
      rfl
    · rw [host_admission]
      rfl
    · simp only [hostOperationRow, hostJointRequest, operation_eq, isHost_operation]
  | claimHost _ runs _ prepared_eq access_eq observations_eq
  | recordHost _ runs _ _ _ _ _ prepared_eq access_eq observations_eq =>
    exact .move hrefl runs.journal.stored (hostMove_of_set prepared_eq access_eq observations_eq)
  | noteHost _ _ journal prepared_eq access_eq observations_eq =>
    exact .move hrefl journal.stored (hostMove_of_eq prepared_eq access_eq observations_eq)
  | settleHost _ _ _ _ journal _ _ _ prepared_eq access_eq observations_eq =>
    refine .move hrefl journal.stored ?_
    rcases observations_eq with hsame | ⟨-, o, hset⟩
    · exact hostMove_of_eq prepared_eq access_eq hsame
    · exact hostMove_of_set prepared_eq access_eq hset
  | delegateCleanup _ runs _ _ _ prepared_eq access_eq observations_eq
  | suspendCleanup _ runs _ _ _ prepared_eq access_eq observations_eq
  | endDelegation _ runs _ _ prepared_eq access_eq observations_eq =>
    exact .move hrefl runs.journal.stored (hostMove_of_eq prepared_eq access_eq observations_eq)
  | resumeCleanup _ journal _ _ _ _ _ _ _ _ _ _ _ admission_eq prepared_eq access_eq
      observations_eq =>
    refine .move hrefl journal.stored ⟨prepared_eq, ?_, ?_, ?_, fun i o ho =>
      ⟨o, observations_eq ▸ ho⟩⟩ <;> rw [access_eq, admission_eq, journal.token]
  | _ => exact .refl hrefl

/-! ## Cleanups -/

/-- The only cleanup that a step adds is of a new operation. -/
structure NewCleanup (L L' : Ledger) (id : String) (row' : HostCleanupRow) : Prop where
  fresh : L.operations row'.childId = none
  others : ∀ id', id' ≠ id → L'.cleanups id' = L.cleanups id'
  cleanup : ∃ op child, L'.operations id = some op ∧ L'.operations row'.childId = some child ∧
    IsCleanupOf op row'.childId child

/-- **The table of cleanups**: the cleanup of an operation stays with it. -/
theorem Step.cleanups (hstep : Step L event L') :
    Evolves L.cleanups L'.cleanups (NewCleanup L L') fun _ row row' =>
      row'.childId = row.childId := by
  have hrefl : ∀ (_ : String) (row : HostCleanupRow), row.childId = row.childId := fun _ _ => rfl
  cases hstep with
  | suspendCleanup _ _ _ delegated | resumeCleanup _ _ _ delegated | endDelegation _ _ _ delegated =>
    exact .move hrefl delegated rfl
  | @delegateCleanup access h h' op childId runs _ fresh undelegated =>
    have hne : access.admission.intentId ≠ childId := by
      intro heq
      rw [← heq, runs.stored] at fresh
      exact absurd fresh (by simp)
    refine .add hrefl undelegated ⟨fresh, fun id' hid => update_of_ne hid _ _, op, _,
      (update_of_ne hne ..).trans runs.stored, update_self .., ?_⟩
    have htoken := runs.token
    exact ⟨rfl, by rw [htoken]; rfl, by rw [htoken]; rfl, by rw [htoken]; exact .rfl⟩
  | _ => exact .refl hrefl

/-! ## Soundness is kept -/

private theorem Admitted.identified (sound : L.Sound) (h : Admitted L L' id op) :
    Identified id op := by
  cases h with
  | ordinary _ id_eq acquires => exact ⟨id_eq.symm, rfl, acquires.epoch⟩
  | host _ id_eq => exact ⟨id_eq.symm, rfl, by simp [hostOperationRow, hostAdmission,
      hostJointRequest]⟩
  | cleanup runs =>
    have hop := sound.identified _ _ runs.stored
    exact ⟨rfl, by simpa [cleanupOperationRow, ← runs.token] using hop.binding,
      by simpa [cleanupOperationRow, ← runs.token] using hop.epoch⟩

section

variable (sound : L.Sound) (hstep : Step L event L')
include sound hstep

private theorem identified_step (hop' : L'.operations id = some op') : Identified id op' := by
  rcases (hstep.operations sound).origin hop' with ⟨-, hnew⟩ | ⟨op, hop, hcont, -⟩
  · exact hnew.identified sound
  · exact hcont.identified (sound.identified id op hop)

private theorem step_owner_step {step : String} {row' : StepRow}
    (hrow' : L'.steps (id, step) = some row') :
    ∃ op', L'.operations id = some op' := by
  have hstays : ∀ {op : OperationRow}, L.operations id = some op →
      ∃ op', L'.operations id = some op' := by
    intro op hop
    obtain ⟨op', hop', -⟩ := (hstep.operations sound).stays hop
    exact ⟨op', hop'⟩
  rcases hstep.steps.origin hrow' with ⟨-, hnew⟩ | ⟨row, hrow, -⟩
  · cases hnew.works with
    | running runs intent => exact hstays (intent ▸ runs.stored)
    | admitted _ stored => exact ⟨_, stored⟩
  · obtain ⟨op, hop⟩ := sound.step_owner id step row hrow
    exact hstays hop

private theorem bare_step {step : String} {row' : StepRow} {outcome : JointNativeOutcome}
    (hop' : L'.operations id = some op') (hhost : op'.request.context.operation.isHost = true)
    (hrow' : L'.steps (id, step) = some row') (hout : row'.outcome = some outcome) :
    outcome.resources = [] := by
  rcases hstep.steps.origin hrow' with ⟨-, hnew⟩ | ⟨row, hrow, hmove⟩
  · cases hnew.unsent.symm.trans hout
  obtain ⟨op, hop⟩ := sound.step_owner id step row hrow
  obtain ⟨op'', hop'', hcont, -⟩ := (hstep.operations sound).stays hop
  cases hop''.symm.trans hop'
  rw [hcont.request] at hhost
  cases hmove with
  | same => exact sound.bare id step op _ outcome hop hhost hrow hout
  | reported _ reports =>
    cases hout
    cases reports with
    | sent _ bare | host _ bare => exact bare
    | ordinary stored ordinary =>
      cases hop.symm.trans stored
      cases hhost.symm.trans ordinary

private theorem reservation_owner_step {kind row'}
    (hrow' : L'.reservations (id, kind) = some row') : ∃ op', L'.operations id = some op' := by
  -- the operation of an old reservation stays, the one of a new reservation is new
  have hold : (∃ row, L.reservations (id, kind) = some row) →
      ∃ op', L'.operations id = some op' := by
    rintro ⟨row, hrow⟩
    obtain ⟨op, hop⟩ := sound.reservation_owner id kind row hrow
    obtain ⟨op', hop', -⟩ := (hstep.operations sound).stays hop
    exact ⟨op', hop'⟩
  cases hstep with
  | admitNew _ _ _ _ _ _ _ adds_reservations =>
    rcases adds_reservations.new _ _ hrow' with hrow | ⟨-, hid, -⟩
    · exact hold ⟨_, hrow⟩
    · obtain rfl : id = _ := hid
      exact ⟨_, update_self ..⟩
  | publish | finishCompensation | release =>
    obtain ⟨row, hrow, -⟩ := Option.map_eq_some_iff.1 hrow'
    exact hold ⟨row, hrow⟩
  | _ => exact hold ⟨row', hrow'⟩

private theorem journal_step {j'} (hj' : L'.hosts id = some j') :
    ∃ op', L'.operations id = some op' ∧ IsJournalOf op' j' := by
  rcases hstep.hosts.origin hj' with ⟨-, hnew⟩ | ⟨j, hj, hmove⟩
  · exact hnew.journal
  · obtain ⟨op, hop, hjour⟩ := sound.journal id j hj
    obtain ⟨op', hop', hcont, -⟩ := (hstep.operations sound).stays hop
    have hjour' := hcont.isJournalOf hjour
    exact ⟨op', hop', hmove.prepared ▸ hjour'.request, hmove.intent.trans hjour'.intent,
      hmove.binding.trans hjour'.binding, hmove.generation.trans hjour'.generation, hjour'.host⟩

private theorem cleanup_step {row'} (hrow' : L'.cleanups id = some row') :
    ∃ op child, L'.operations id = some op ∧ L'.operations row'.childId = some child ∧
      IsCleanupOf op row'.childId child := by
  rcases hstep.cleanups.origin hrow' with ⟨-, hnew⟩ | ⟨row, hrow, hchild⟩
  · exact hnew.cleanup
  · obtain ⟨op, child, hop, hchild_op, hcleanup⟩ := sound.cleanup id row hrow
    obtain ⟨op', hop', hcont, -⟩ := (hstep.operations sound).stays hop
    obtain ⟨child', hchild', hchild_continues, -⟩ := (hstep.operations sound).stays hchild_op
    rw [hchild]
    exact ⟨op', child', hop', hchild', hcont.isCleanupOf hchild_continues hcleanup⟩

/-- Soundness is kept by every step. -/
theorem Sound.step : L'.Sound where
  identified := fun _ _ => identified_step sound hstep
  step_owner := fun _ _ _ => step_owner_step sound hstep
  reservation_owner := fun _ _ _ => reservation_owner_step sound hstep
  journal := fun _ _ => journal_step sound hstep
  cleanup := fun _ _ => cleanup_step sound hstep
  bare := fun _ _ _ _ _ => bare_step sound hstep

end

theorem Reached.sound (h : L.Reached) : L.Sound :=
  Reachable.invariant Sound.empty (fun _ _ _ sound hstep => sound.step hstep) h

end XGovernor.Joint.Ledger
