import Mathlib.Logic.Function.Basic
import XGovernor.Joint.Store

/-!
# The ledger

What the joint store is for: a ledger of bindings, the operations on them, the native
steps that may have effects, the objects they own, the fences that serialize them, the
references between them, and the journals of Host operations.

The ledger is the abstract model of the store: its tables are partial maps, and
`Ledger.Step` lists what a committed transaction may do to them, with the conditions
under which it may do it.  `XGovernor.Joint.Refinement` shows that every call of the
repository is such a step; the invariants of the store are proved about steps.
-/

namespace XGovernor.Joint

open Domain Lib

/-- The abstract state of the store. -/
structure Ledger where
  bindings : String → Option BindingRow
  operations : String → Option OperationRow
  reservations : String × ResourceKind → Option ReservationRow
  steps : String × String → Option StepRow
  objects : ObjectKey → Option ObjectRow
  fences : FenceKind × String → Option FenceRow
  refs : RefKind × String → Option String
  hosts : String → Option HostIntentV1
  cleanups : String → Option HostCleanupRow
  cancels : String → Option TurnCancelRow

/-- The ledger before the first transaction. -/
def Ledger.empty : Ledger where
  bindings := fun _ => none
  operations := fun _ => none
  reservations := fun _ => none
  steps := fun _ => none
  objects := fun _ => none
  fences := fun _ => none
  refs := fun _ => none
  hosts := fun _ => none
  cleanups := fun _ => none
  cancels := fun _ => none

/-- The ledger of a database. -/
def Db.ledger (s : Db) : Ledger where
  bindings := s.bindings.get?
  operations := s.operations.get?
  reservations := s.reservations.get?
  steps := s.steps.get?
  objects := s.objects.get?
  fences := s.fences.get?
  refs := s.refs.get?
  hosts := s.hostIntents.get?
  cleanups := s.hostCleanup.get?
  cancels := s.turnCancels.get?

namespace Ledger

/-! ## Fences -/

/-- The fences with a free one added where there is none. -/
def ensured (fences : FenceKind × String → Option FenceRow) (key : FenceKind × String)
    (rootId tenant : String) : FenceKind × String → Option FenceRow :=
  fun k => (fences k).or (if k = key then some ⟨rootId, tenant, 0, none⟩ else none)

theorem ensured_of_some {fences key k rootId tenant fence} (h : fences k = some fence) :
    ensured fences key rootId tenant k = some fence := by
  simp [ensured, h]

/-- The fences after `id` took one of them, which starts its next epoch. -/
def taken (fences : FenceKind × String → Option FenceRow) (key : FenceKind × String)
    (id : String) : FenceKind × String → Option FenceRow :=
  fun k => (fences k).map fun fence =>
    if k = key then { fence with epoch := fence.epoch + 1, holder := some id } else fence

theorem taken_self {fences key fence} (h : fences key = some fence) (id : String) :
    taken fences key id key = some { fence with epoch := fence.epoch + 1, holder := some id } := by
  simp [taken, h]

/-- The fences after `id` gave up all it held. -/
def released (fences : FenceKind × String → Option FenceRow) (id : String) :
    FenceKind × String → Option FenceRow :=
  fun k => (fences k).map fun fence =>
    if fence.holder = some id then { fence with holder := none } else fence

/-- The operation still has what it was admitted with. -/
structure Fenced (L : Ledger) (request : JointPrepareRequest) (admission : JointAdmission) :
    Prop where
  root : ∃ fence, L.fences (.root, request.rootId) = some fence ∧
    fence.epoch = admission.rootEpoch ∧
    fence.holder = if request.exclusiveRoot then some admission.intentId else none
  source : ∀ epoch, admission.sourceEpoch = some epoch →
    ∃ fence, L.fences (.source, request.sourceId) = some fence ∧ fence.epoch = epoch ∧
      fence.holder = some admission.intentId
  binding : ∃ row, L.bindings admission.binding.bindingId = some row ∧
    row.generation = admission.generation ∧ row.state ≠ .removed

/-- The fence an ordinary admission takes, the epochs in its token, and the fences after. -/
structure Acquires (fences : FenceKind × String → Option FenceRow)
    (request : JointPrepareRequest) (id tenant : String) (rootEpoch : Nat)
    (sourceEpoch : Option Nat) (fences' : FenceKind × String → Option FenceRow) : Prop where
  root_free : ∃ root,
    ensured fences (.root, request.rootId) request.rootId tenant (.root, request.rootId) =
      some root ∧ root.holder = none ∧
      rootEpoch = if request.exclusiveRoot then root.epoch + 1 else root.epoch
  exclusive : request.exclusiveRoot = true →
    (∀ source fence,
      ensured fences (.root, request.rootId) request.rootId tenant (.source, source) =
        some fence → fence.rootId = request.rootId → fence.holder = none) ∧ sourceEpoch = none ∧
    fences' = taken (ensured fences (.root, request.rootId) request.rootId tenant)
      (.root, request.rootId) id
  ordinary : request.exclusiveRoot = false →
    (∃ source,
      ensured (ensured fences (.root, request.rootId) request.rootId tenant)
        (.source, request.sourceId) request.rootId tenant (.source, request.sourceId) =
        some source ∧ source.rootId = request.rootId ∧ source.holder = none ∧
        sourceEpoch = some (source.epoch + 1)) ∧
    fences' = taken (ensured (ensured fences (.root, request.rootId) request.rootId tenant)
      (.source, request.sourceId) request.rootId tenant) (.source, request.sourceId) id

/-- Nothing is in the way of an admission: neither the Root nor the source is held, and no
source of the Root is held when the admission is exclusive. -/
structure FreeFor (fences : FenceKind × String → Option FenceRow)
    (request : JointPrepareRequest) : Prop where
  root : ∀ fence, fences (.root, request.rootId) = some fence → fence.holder = none
  sources : request.exclusiveRoot = true → ∀ sourceId fence,
    fences (.source, sourceId) = some fence → fence.rootId = request.rootId → fence.holder = none
  source : request.exclusiveRoot = false → ∀ fence,
    fences (.source, request.sourceId) = some fence → fence.holder = none

section Acquires

variable {fences fences' : FenceKind × String → Option FenceRow} {request : JointPrepareRequest}
  {id tenant : String} {rootEpoch : Nat} {sourceEpoch : Option Nat}

section

variable (h : Acquires fences request id tenant rootEpoch sourceEpoch fences')
include h

theorem Acquires.freeFor :
    FreeFor fences request := by
  constructor
  · intro fence hfence
    obtain ⟨root, hroot, hfree, -⟩ := h.root_free
    rw [ensured_of_some hfence, Option.some.injEq] at hroot
    exact hroot ▸ hfree
  · intro hexcl sourceId fence hfence
    exact (h.exclusive hexcl).1 sourceId fence (ensured_of_some hfence)
  · intro hord fence hfence
    obtain ⟨⟨source, hsrc, -, hfree, -⟩, -⟩ := h.ordinary hord
    rw [ensured_of_some (ensured_of_some hfence), Option.some.injEq] at hsrc
    exact hsrc ▸ hfree

theorem Acquires.rooted (hord : request.exclusiveRoot = false) :
    ∃ source, fences' (.source, request.sourceId) = some source ∧
      source.rootId = request.rootId := by
  obtain ⟨⟨source, hsrc, hrootId, -⟩, rfl⟩ := h.ordinary hord
  exact ⟨_, taken_self hsrc id, hrootId⟩

/-- An admission has a source epoch unless it is exclusive. -/
theorem Acquires.epoch :
    sourceEpoch = none ↔ request.exclusiveRoot = true := by
  cases hexcl : request.exclusiveRoot with
  | true => simp [(h.exclusive hexcl).2.1]
  | false =>
    obtain ⟨⟨source, -, -, -, hsrc⟩, -⟩ := h.ordinary hexcl
    simp [hsrc]

end

end Acquires

/-! ## Steps, reservations and objects -/

/-- The native steps of an admission are new and have no outcome. -/
structure AddsSteps (steps steps' : String × String → Option StepRow) (id : String)
    (natives : List JointNativeIntent) : Prop
    extends Table.Grows steps steps' fun key row =>
      key.1 = id ∧ row.native ∈ natives ∧ key.2 = row.native.step ∧ row.outcome = none where
  distinct : (natives.map (·.step)).Nodup
  free : ∀ native ∈ natives, steps (id, native.step) = none
  added : ∀ native ∈ natives, steps' (id, native.step) = some ⟨native, none⟩

/-- The reservations of an admission are new and reserved. -/
structure AddsReservations (reservations reservations' : String × ResourceKind →
    Option ReservationRow) (id : String) (requested : List JointResourceReservation) : Prop
    extends Table.Grows reservations reservations' fun key row =>
      key.1 = id ∧ row.state = .reserved where
  added : ∀ reservation ∈ requested,
    ∃ row, reservations' (id, reservation.kind) = some row ∧ row.state = .reserved

/-- Every native step of the operation has a terminal outcome. -/
def Settled (L : Ledger) (id : String) : Prop :=
  ∀ step row, L.steps (id, step) = some row →
    ∃ outcome, row.outcome = some outcome ∧ outcome.state.isTerminal = true

/-- No native step of the operation has an outcome that is not terminal. -/
def Quiet (L : Ledger) (id : String) : Prop :=
  ∀ step row outcome, L.steps (id, step) = some row → row.outcome = some outcome →
    outcome.state.isTerminal = true

/-- What a report says about an object. -/
inductive Sighting where
  | present
  | absent
deriving DecidableEq, Repr

/-- The objects after one sighting. -/
def observed (rootId : String) (objects : ObjectKey → Option ObjectRow)
    (event : ObjectKey × Sighting) : ObjectKey → Option ObjectRow :=
  match event.2 with
  | .present => Function.update objects event.1
      (some ⟨((objects event.1).map (·.rootId)).getD rootId, false⟩)
  | .absent => fun key => (objects key).map fun row =>
      if key = event.1 then { row with absent := true } else row

/-! ## Events -/

/-- What an observer of the store can tell apart: a send that was granted, and sightings of
objects. -/
inductive Event where
  | internal
  | dispatch (intentId step : String)
  | hostDispatch (intentId : String) (step : Nat)
  | cancelDispatch (intentId : String)
  | sightings (events : List (ObjectKey × Sighting))
deriving DecidableEq, Repr

/-- What a report about a native step says about one resource: a create step saw it, a
completed absence observation did not, and any other step says nothing. -/
def sightingOf (admission : JointAdmission) (native : JointNativeIntent)
    (state : NativeOperationState) (resource : JointNativeObject) :
    Option (ObjectKey × Sighting) :=
  let key : ObjectKey :=
    { bindingId := admission.binding.bindingId
      generation := admission.generation
      kind := resource.kind
      nativeId := resource.id }
  if native.effect = .create then some (key, .present)
  else if native.effect = .observeAbsence ∧ state = .completed then some (key, .absent)
  else none

/-- The sightings in a report, in the order of its resources. -/
def sightingsOf (admission : JointAdmission) (native : JointNativeIntent)
    (state : NativeOperationState) (resources : List JointNativeObject) :
    List (ObjectKey × Sighting) :=
  resources.filterMap (sightingOf admission native state)

/-! ## Conditions shared by several steps -/

/-- The token names a stored operation that still holds its fence. -/
structure Runs (L : Ledger) (admission : JointAdmission) (op : OperationRow) : Prop where
  stored : L.operations admission.intentId = some op
  token : op.admission = admission
  fenced : L.Fenced op.request admission

/-- The token names an ordinary operation that still holds its fence. -/
structure RunsOrdinary (L : Ledger) (admission : JointAdmission) (op : OperationRow) : Prop
    extends L.Runs admission op where
  ordinary : op.request.context.operation.isHost = false

/-- The token names the journal of a Host operation. -/
structure HasJournal (L : Ledger) (access : HostAccessTokenV1) (h : HostIntentV1) : Prop where
  stored : L.hosts access.admission.intentId = some h
  token : h.access = access

/-- The token names a Host operation that runs and holds its fence. -/
structure RunsHost (L : Ledger) (access : HostAccessTokenV1) (h : HostIntentV1)
    (op : OperationRow) : Prop extends L.Runs access.admission op where
  journal : L.HasJournal access h
  active : activeStage op.stage = true
  running : h.state ≠ .suspendedWaitingDependency

/-- The stage after a claim or a report: a compensation stays one. -/
def advanced (op : OperationRow) (stage : Stage) : OperationRow :=
  { op with stage := if op.stage = .compensating then op.stage else stage }

/-- The operations after those of a set reached a stage. -/
def restaged (operations : String → Option OperationRow) (ids : List String) (stage : Stage) :
    String → Option OperationRow :=
  fun id => (operations id).map fun row => if id ∈ ids then { row with stage } else row

/-- The reservations after those of a set of operations were given back. -/
def returned (reservations : String × ResourceKind → Option ReservationRow)
    (ids : List String) : String × ResourceKind → Option ReservationRow :=
  fun key => (reservations key).map fun row =>
    if key.1 ∈ ids then { row with state := .released } else row

/-- The reservations after those of an operation were committed. -/
def committed (reservations : String × ResourceKind → Option ReservationRow) (id : String) :
    String × ResourceKind → Option ReservationRow :=
  fun key => (reservations key).map fun row =>
    if key.1 = id ∧ row.state = .reserved then { row with state := .committed } else row

/-- The references without some keys. -/
def dropped (refs : RefKind × String → Option String) (keys : List (RefKind × String)) :
    RefKind × String → Option String :=
  fun key => if key ∈ keys then none else refs key

theorem dropped_nil (refs : RefKind × String → Option String) : dropped refs [] = refs := by
  funext key
  simp [dropped]

/-- No object of the binding generation is present. -/
def AllAbsent (L : Ledger) (bindingId : String) (generation : Nat) : Prop :=
  ∀ key row, L.objects key = some row → key.bindingId = bindingId →
    key.generation = generation → row.absent = true

/-- The native steps after the send of one was claimed for a Host operation. -/
def claimedStep (steps : String × String → Option StepRow) (id : String)
    (native : Option JointNativeIntent) : String × String → Option StepRow :=
  fun key => (steps key).map fun row =>
    if native.any (fun n => key = (id, n.step)) ∧ row.outcome = none then
      { row with outcome := some sentUnknown }
    else row

/-- The native steps after the outcome of one was set. -/
def reportedStep (steps : String × String → Option StepRow) (id : String)
    (native : Option JointNativeIntent) (outcome : JointNativeOutcome) :
    String × String → Option StepRow :=
  fun key => (steps key).map fun row =>
    if native.any (fun n => key = (id, n.step)) then { row with outcome := some outcome }
    else row

end Ledger

end XGovernor.Joint
