import XGovernor.Joint.Ledger

/-!
# Steps of the ledger

Every way a committed transaction may change the ledger, with the conditions it is subject
to.  One rule stands for all calls that have the same effect: a replayed request, a
registration or a write of the split route is `internal`.
-/

namespace XGovernor.Joint.Ledger

open Domain Lib Function

/-- **Ledger steps**: how a committed transaction may change the ledger. -/
inductive Step : Ledger → Event → Ledger → Prop
  /-- A transaction that changes no table of the ledger. -/
  | internal {L : Ledger} : Step L .internal L
  /-- The admission of an operation that creates a binding. -/
  | admitNew {L request epochs fences' steps' reservations'} (valid : ValidRequest request)
      (creates : request.context.operation.creates = true)
      (fresh : L.operations request.context.intentId = none)
      (unbound : L.bindings request.binding.bindingId = none)
      (parent_active : ∀ parent, request.parentBinding = some parent →
        (∃ row, L.bindings parent.bindingId = some row ∧ row.state = .active) ∧
          L.refs (.binding, request.binding.bindingId) = none)
      (acquires : Acquires L.fences request request.context.intentId
        (tenantKey request.context.tenantId) epochs.1 epochs.2 fences')
      (adds_steps : AddsSteps L.steps steps' request.context.intentId request.native)
      (adds_reservations : AddsReservations L.reservations reservations'
        request.context.intentId request.reservations) :
      Step L .internal
        { L with
          bindings := update L.bindings request.binding.bindingId
            (some (newBindingRow request))
          operations := update L.operations request.context.intentId
            (some (newOperationRow request epochs))
          reservations := reservations'
          steps := steps'
          fences := fences'
          refs := request.parentBinding.elim L.refs fun parent =>
            update L.refs (.binding, request.binding.bindingId)
              (some parent.bindingId) }
  /-- The admission of an operation on an active binding that nothing else refers to. -/
  | admitExisting {L request epochs row publicId fences' steps'} (valid : ValidRequest request)
      (creates : request.context.operation.creates = false)
      (fresh : L.operations request.context.intentId = none)
      (bound : L.bindings request.binding.bindingId = some row)
      (active : row.state = .active)
      (first_generation : row.generation = 1)
      (reference : (ownedReference request.context).2 = some publicId)
      (owned : L.refs ((ownedReference request.context).1, publicId) =
        some request.binding.bindingId)
      (sole : ∀ key, L.refs key = some request.binding.bindingId →
        key = ((ownedReference request.context).1, publicId))
      (acquires : Acquires L.fences request request.context.intentId
        (tenantKey request.context.tenantId) epochs.1 epochs.2 fences')
      (adds_steps : AddsSteps L.steps steps' request.context.intentId request.native) :
      Step L .internal
        { L with
          bindings := if request.context.operation = .turn then L.bindings
            else update L.bindings request.binding.bindingId
              (some { row with state := .releasing })
          operations := update L.operations request.context.intentId
            (some (newOperationRow request epochs))
          steps := steps'
          fences := fences' }
  /-- The sole initial send of a native step. -/
  | dispatch {L admission step op row} (runs : L.RunsOrdinary admission op)
      (sending : [Stage.prepared, .accepted, .unknown, .compensating].contains op.stage = true)
      (stored : L.steps (admission.intentId, step) = some row)
      (unclaimed : row.outcome = none) :
      Step L (.dispatch admission.intentId step)
        { L with
          steps := update L.steps (admission.intentId, step)
            (some { row with outcome := some sentUnknown })
          operations := update L.operations admission.intentId
            (some (advanced op .unknown)) }
  /-- A further native step of a running operation. -/
  | append {L admission native op} (runs : L.RunsOrdinary admission op)
      (free : L.steps (admission.intentId, native.step) = none) :
      Step L .internal
        { L with
          steps := update L.steps (admission.intentId, native.step)
            (some ⟨native, none⟩) }
  /-- A report about a native step whose outcome was not terminal. -/
  | record {L admission step op row outcome resources stage} (runs : L.RunsOrdinary admission op)
      (reporting : [Stage.prepared, .accepted, .unknown, .releasing, .compensating].contains
        op.stage = true)
      (stored : L.steps (admission.intentId, step) = some row)
      (unsettled : ∀ old, row.outcome = some old → old.state.isTerminal = false)
      (next : stage = .unknown ∨ stage = .accepted)
      (retained : ∀ old, row.outcome = some old → old.resources <+: outcome.resources) :
      Step L (.sightings (sightingsOf admission row.native outcome.state resources))
        { L with
          steps := update L.steps (admission.intentId, step)
            (some { row with outcome := some outcome })
          operations := update L.operations admission.intentId
            (some (advanced op stage))
          objects := (sightingsOf admission row.native outcome.state resources).foldl
            (observed op.request.rootId) L.objects }
  /-- The publication of what an operation created. -/
  | publish {L admission op row} (publication : JointPublication)
      (runs : L.RunsOrdinary admission op)
      (creates : op.request.context.operation.creates = true)
      (ready : op.stage = .prepared ∨ op.stage = .accepted)
      (completed : ∀ step row, L.steps (admission.intentId, step) = some row →
        ∃ outcome, row.outcome = some outcome ∧ outcome.state = .completed)
      (bound : L.bindings admission.binding.bindingId = some row)
      (prepared : row.state = .prepared)
      (unreferenced : L.refs (createdIdentity op.request.context) = none) :
      Step L .internal
        { L with
          bindings := update L.bindings admission.binding.bindingId
            (some { row with state := .active })
          operations := update L.operations admission.intentId
            (some { op with stage := .published, publication := some publication })
          reservations := committed L.reservations admission.intentId
          refs := update L.refs (createdIdentity op.request.context)
            (some admission.binding.bindingId)
          fences := released L.fences admission.intentId }
  /-- The settlement of a turn. -/
  | settleTurn {L admission op} (runs : L.RunsOrdinary admission op)
      (turn : op.request.context.operation = .turn)
      (settled : L.Settled admission.intentId) :
      Step L .internal
        { L with
          operations := update L.operations admission.intentId
            (some { op with stage := .settled })
          fences := released L.fences admission.intentId }
  /-- An operation that was not published turns to compensation. -/
  | beginCompensation {L admission op row} (runs : L.RunsOrdinary admission op)
      (ready : op.stage = .prepared ∨ op.stage = .accepted ∨ op.stage = .unknown)
      (bound : L.bindings admission.binding.bindingId = some row)
      (prepared : row.state = .prepared)
      (creation : row.creationIntent = admission.intentId)
      (unreferenced : ∀ key, L.refs key ≠ some admission.binding.bindingId) :
      Step L .internal
        { L with
          bindings := update L.bindings admission.binding.bindingId
            (some { row with state := .compensating })
          operations := update L.operations admission.intentId
            (some { op with stage := .compensating }) }
  /-- The end of a compensation: everything the operation created is gone. -/
  | finishCompensation {L admission op row} (runs : L.RunsOrdinary admission op)
      (unfinished : op.stage ≠ .compensated)
      (bound : L.bindings admission.binding.bindingId = some row)
      (unpublished : row.state = .prepared ∨ row.state = .compensating)
      (creation : row.creationIntent = admission.intentId)
      (settled : L.Settled admission.intentId)
      (unreferenced : ∀ key, L.refs key ≠ some admission.binding.bindingId)
      (absent : L.AllAbsent admission.binding.bindingId admission.generation) :
      Step L .internal
        { L with
          bindings := update L.bindings admission.binding.bindingId
            (some { row with state := .removed })
          operations := update L.operations admission.intentId
            (some { op with stage := .compensated })
          reservations := returned L.reservations [admission.intentId]
          refs := dropped L.refs [(.binding, admission.binding.bindingId)]
          fences := released L.fences admission.intentId }
  /-- The end of a release: the public reference was the last one, and every object of the
  binding is gone. -/
  | release {L admission op row kind publicId} (runs : L.RunsOrdinary admission op)
      (releases : op.request.context.operation.releases = true)
      (identity : releasedIdentity kind op.request.context = some publicId)
      (unfinished : op.stage ≠ .released)
      (settled : L.Settled admission.intentId)
      (bound : L.bindings admission.binding.bindingId = some row)
      (releasing : row.state = .releasing)
      (absent : L.AllAbsent admission.binding.bindingId admission.generation)
      (owned : L.refs (kind, publicId) = some admission.binding.bindingId)
      (sole : ∀ key, L.refs key = some admission.binding.bindingId → key = (kind, publicId)) :
      Step L .internal
        { L with
          bindings := update L.bindings admission.binding.bindingId
            (some { row with state := .removed })
          operations := restaged L.operations [row.creationIntent, admission.intentId] .released
          reservations := returned L.reservations [row.creationIntent, admission.intentId]
          refs := dropped L.refs [(kind, publicId), (.binding, admission.binding.bindingId)]
          fences := released L.fences admission.intentId }
  /-- The admission of a Host operation: it takes the source fence of its session and holds
  the binding of its Root. -/
  | admitHost {L prepared epochs} (host : HostIntentV1) {root source rootBinding steps'}
      (operation_eq : prepared.context.operation = prepared.request.operation)
      (native_eq : prepared.native = [] ↔ prepared.request.isRead = true)
      (fresh : L.operations prepared.context.intentId = none)
      (unheld : L.refs (.hostHold, prepared.context.intentId) = none)
      (unrecorded : L.hosts prepared.context.intentId = none)
      (live : ∃ row, L.bindings prepared.target.liveBinding.bindingId = some row ∧
        row.state = .active ∧ row.generation = prepared.target.bindingGeneration)
      (root_bound : L.bindings prepared.target.rootBindingId = some rootBinding)
      (root_active : rootBinding.state = .active)
      (root_fence : L.fences (.root, prepared.target.rootId) = some root)
      (root_free : root.holder = none)
      (source_fence : ensured L.fences (.source, prepared.target.publicRuntimeId)
        prepared.target.rootId prepared.target.tenantKey
        (.source, prepared.target.publicRuntimeId) = some source)
      (source_root : source.rootId = prepared.target.rootId)
      (source_free : source.holder = none)
      (epochs_eq : epochs = (root.epoch, source.epoch + 1))
      (adds_steps : AddsSteps L.steps steps' prepared.context.intentId prepared.native)
      (host_prepared : host.prepared = prepared)
      (host_admission : host.access.admission = hostAdmission prepared epochs)
      (host_observations :
        host.observations = List.replicate (max prepared.native.length 1) none)
      (host_running : host.state = .prepared ∧ host.cleanupState = .none ∧ host.result = none) :
      Step L .internal
        { L with
          operations := update L.operations prepared.context.intentId
            (some (hostOperationRow prepared epochs))
          steps := steps'
          fences := taken (ensured L.fences (.source, prepared.target.publicRuntimeId)
            prepared.target.rootId prepared.target.tenantKey)
            (.source, prepared.target.publicRuntimeId) prepared.context.intentId
          refs := update L.refs (.hostHold, prepared.context.intentId)
            (some prepared.target.rootBindingId)
          hosts := update L.hosts prepared.context.intentId (some host) }
  /-- The sole dispatch of a Host step. -/
  | claimHost {L : Ledger} {access : HostAccessTokenV1}
      {h : HostIntentV1} (h' : HostIntentV1)
      {op : OperationRow} {index : Nat}
      (runs : L.RunsHost access h op)
      (unclaimed : h.observations[index]? = some none)
      (prepared_eq : h'.prepared = h.prepared)
      (access_eq : h'.access = h.access)
      (observations_eq : h'.observations = h.observations.set index (some claimedObservation))
      (native : h.prepared.request.isRead = false → h.prepared.native[index]?.isSome) :
      Step L (.hostDispatch access.admission.intentId index)
        { L with
          steps := if h.prepared.request.isRead then L.steps
            else claimedStep L.steps access.admission.intentId h.prepared.native[index]?
          operations := update L.operations access.admission.intentId
            (some { op with stage := .unknown })
          hosts := update L.hosts access.admission.intentId (some h') }
  /-- A report about a Host step that was claimed and is not settled. -/
  | recordHost {L access h} (h' : HostIntentV1) {op index old observation stage}
      (runs : L.RunsHost access h op)
      (claimed : h.observations[index]? = some (some old))
      (unsettled : old.settled = false)
      (terminal : observation.settled = true → observation.state.isTerminal = true)
      (next : stage = .unknown ∨ stage = .accepted)
      (immutable : ∀ n, h.prepared.native[index]? = some n →
        ∃ row outcome, L.steps (access.admission.intentId, n.step) = some row ∧
          row.outcome = some outcome ∧
          (outcome.state.isTerminal = true →
            outcome.state = observation.state ∧ outcome.payload = observation.payload))
      (prepared_eq : h'.prepared = h.prepared)
      (access_eq : h'.access = h.access)
      (observations_eq : h'.observations = h.observations.set index (some observation)) :
      Step L .internal
        { L with
          steps := reportedStep L.steps access.admission.intentId h.prepared.native[index]?
            ⟨observation.state, [], observation.payload⟩
          operations := update L.operations access.admission.intentId
            (some { op with stage })
          hosts := update L.hosts access.admission.intentId (some h') }
  /-- A note in the journal of a Host operation that leaves its observations alone. -/
  | noteHost {L access h} (h' : HostIntentV1) (keys : List (RefKind × String))
      (journal : L.HasJournal access h)
      (prepared_eq : h'.prepared = h.prepared)
      (access_eq : h'.access = h.access)
      (observations_eq : h'.observations = h.observations)
      (state_eq : h'.state = h.state)
      (keys_hold : ∀ key ∈ keys, key = (.hostHold, access.admission.intentId)) :
      Step L .internal
        { L with
          refs := dropped L.refs keys
          hosts := update L.hosts access.admission.intentId (some h') }
  /-- The settlement of a Host operation: its effects are settled, or it never had any. -/
  | settleHost {L access h} (h' : HostIntentV1) {op result} (keys : List (RefKind × String))
      (stored : L.operations access.admission.intentId = some op)
      (token : op.admission = access.admission)
      (journal : L.HasJournal access h)
      (active : activeStage op.stage = true)
      (running : h.state ≠ .suspendedWaitingDependency)
      (quiet : allSettled h = true ∨ (∀ o ∈ h.observations, o = none) ∨ h.prepared.native = [])
      (prepared_eq : h'.prepared = h.prepared)
      (access_eq : h'.access = h.access)
      (observations_eq : h'.observations = h.observations ∨
        (h.prepared.native = [] ∧
          ∃ o : HostObservationV1, h'.observations = h.observations.set 0 (some o)))
      (finished : h'.result = some result ∧ h'.state ≠ .suspendedWaitingDependency)
      (keys_hold : ∀ key ∈ keys, key = (.hostHold, access.admission.intentId)) :
      Step L .internal
        { L with
          operations := update L.operations access.admission.intentId
            (some { op with stage := .settled, publication := some (.host result) })
          refs := dropped L.refs keys
          fences := released L.fences access.admission.intentId
          hosts := update L.hosts access.admission.intentId (some h') }
  /-- A child operation takes over the cleanup of a settled Host operation. -/
  | delegateCleanup {L access h} (h' : HostIntentV1) {op childId} (runs : L.RunsHost access h op)
      (settled : allSettled h = true)
      (fresh : L.operations childId = none)
      (undelegated : L.cleanups access.admission.intentId = none)
      (prepared_eq : h'.prepared = h.prepared)
      (access_eq : h'.access = h.access)
      (observations_eq : h'.observations = h.observations)
      (state_eq : h'.state = h.state) :
      Step L .internal
        { L with
          operations := update L.operations childId
            (some (cleanupOperationRow op access h childId))
          cleanups := update L.cleanups access.admission.intentId
            (some ⟨childId, .prepared, true⟩)
          hosts := update L.hosts access.admission.intentId (some h') }
  /-- A settled Host operation gives up its fence while its cleanup waits. -/
  | suspendCleanup {L access h} (h' : HostIntentV1) {op cleanup} (runs : L.RunsHost access h op)
      (settled : allSettled h = true)
      (delegated : L.cleanups access.admission.intentId = some cleanup)
      (waiting : cleanup.state = .prepared)
      (prepared_eq : h'.prepared = h.prepared)
      (access_eq : h'.access = h.access)
      (observations_eq : h'.observations = h.observations)
      (suspended : h'.state = .suspendedWaitingDependency) :
      Step L .internal
        { L with
          operations := restaged L.operations [access.admission.intentId, cleanup.childId]
            .suspendedWaitingDependency
          cleanups := update L.cleanups access.admission.intentId
            (some { cleanup with state := .waitingDependency, delegated := false })
          fences := released L.fences access.admission.intentId
          hosts := update L.hosts access.admission.intentId (some h') }
  /-- A suspended cleanup takes the source fence again, under new epochs. -/
  | resumeCleanup {L access access' h} (h' : HostIntentV1) {op child cleanup root source}
      (journal : L.HasJournal access h)
      (suspended : h.state = .suspendedWaitingDependency)
      (delegated : L.cleanups access.admission.intentId = some cleanup)
      (root_fence : L.fences (.root, h.prepared.target.rootId) = some root)
      (root_free : root.holder = none)
      (source_fence : L.fences (.source, h.prepared.target.publicRuntimeId) = some source)
      (source_free : source.holder = none)
      (stored : L.operations access.admission.intentId = some op)
      (op_suspended : op.stage = .suspendedWaitingDependency)
      (distinct : cleanup.childId ≠ access.admission.intentId)
      (child_stored : L.operations cleanup.childId = some child)
      (child_suspended : child.stage = .suspendedWaitingDependency)
      (admission_eq : access'.admission =
        { access.admission with
          sourceEpoch := some (source.epoch + 1)
          rootEpoch := root.epoch })
      (prepared_eq : h'.prepared = h.prepared)
      (access_eq : h'.access = access')
      (observations_eq : h'.observations = h.observations)
      (resumed : h'.state = .executing) :
      Step L .internal
        { L with
          operations := update
            (update L.operations access.admission.intentId
              (some { op with stage := .accepted, admission := access'.admission }))
            cleanup.childId
            (some { child with
              stage := .accepted
              admission := { access'.admission with intentId := cleanup.childId } })
          cleanups := update L.cleanups access.admission.intentId
            (some { cleanup with state := .prepared, delegated := true })
          fences := taken L.fences (.source, h.prepared.target.publicRuntimeId)
            access.admission.intentId
          hosts := update L.hosts access.admission.intentId (some h') }
  /-- The child operation of a cleanup settles. -/
  | endDelegation {L access h} (h' : HostIntentV1) {op cleanup} (runs : L.RunsHost access h op)
      (settled : allSettled h = true)
      (delegated : L.cleanups access.admission.intentId = some cleanup)
      (prepared_eq : h'.prepared = h.prepared)
      (access_eq : h'.access = h.access)
      (observations_eq : h'.observations = h.observations)
      (state_eq : h'.state = h.state) :
      Step L .internal
        { L with
          operations := restaged L.operations [cleanup.childId] .settled
          cleanups := update L.cleanups access.admission.intentId
            (some { cleanup with state := .done, delegated := false })
          hosts := update L.hosts access.admission.intentId (some h') }
  /-- A cancellation of a turn is registered, or its native message is stored. -/
  | prepareCancel {L} (id : String) (row : TurnCancelRow)
      (kept : ∀ old, L.cancels id = some old → row.outcome = old.outcome) :
      Step L .internal { L with cancels := update L.cancels id (some row) }
  /-- The sole send of a cancellation. -/
  | claimCancel {L id row} (stored : L.cancels id = some row) (unclaimed : row.outcome = none) :
      Step L (.cancelDispatch id)
        { L with
          cancels := update L.cancels id
            (some { row with outcome := some sentUnknown }) }
  /-- A report about a cancellation. -/
  | recordCancel {L id row} (outcome : JointNativeOutcome) (stored : L.cancels id = some row) :
      Step L .internal
        { L with
          cancels := update L.cancels id (some { row with outcome := some outcome }) }

theorem Step.to {L L' L'' event} (h : Step L event L') (heq : L'' = L') :
    Step L event L'' :=
  heq ▸ h

/-- The ledgers that steps lead to. -/
def Reached (L : Ledger) : Prop :=
  Reachable Step Ledger.empty L

end XGovernor.Joint.Ledger
