import XGovernor.Joint.Bindings
import XGovernor.Joint.Refinement

/-!
# Coherence of bindings

The state of a binding, the stage of the operation that created it and the states of that
operation's reservations are kept in three tables and written by different transactions.
They agree in every ledger that steps lead to, so a reservation is given back once, and an
operation that was released or compensated stays so.
-/

namespace XGovernor.Joint

variable {state : BindingState} {stage : Stage} {id key : String} {op old new op' : OperationRow}
  {ids : List String} {row : BindingRow}
  {reservations : String × ResourceKind → Option ReservationRow}

/-- The stages the creating operation of a binding may be in. -/
def BindingState.fits : BindingState → Stage → Bool
  | prepared, .prepared | prepared, .accepted | prepared, .unknown => true
  | compensating, .compensating => true
  | active, .published | releasing, .published => true
  | removed, .released | removed, .compensated => true
  | _, _ => false

/-- The state the reservations of the creating operation are in. -/
def BindingState.reservation : BindingState → ReservationState
  | prepared | compensating => .reserved
  | active | releasing => .committed
  | removed => .released

/-- A stage determines the state of the binding, up to a release that has begun. -/
theorem BindingState.eq_of_fits (h : state.fits stage = true) :
    (state = .prepared ↔ stage = .prepared ∨ stage = .accepted ∨ stage = .unknown) ∧
    (state = .compensating ↔ stage = .compensating) ∧
    (state = .active ∨ state = .releasing ↔ stage = .published) ∧
    (state = .removed ↔ stage = .released ∨ stage = .compensated) := by
  cases state <;> cases stage <;> simp [fits] at h ⊢

/-- The stages an operation never leaves. -/
def Stage.isFinal : Stage → Bool
  | released | compensated => true
  | _ => false

theorem Stage.isFinal_eq_false_of_fits (h : state.fits stage = true) (hstate : state ≠ .removed) :
    stage.isFinal = false := by
  cases state <;> cases stage <;> simp [BindingState.fits, isFinal] at h hstate ⊢

namespace Ledger

open Domain Lib Function Table

variable {L L' : Ledger} {event : Event}

/-! ## Coherence -/

/-- All reservations of the operation are in the state, and it has some. -/
structure ReservationsAre (L : Ledger) (id : String) (state : ReservationState) : Prop where
  nonempty : ∃ kind row, L.reservations (id, kind) = some row
  all : ∀ kind row, L.reservations (id, kind) = some row → row.state = state

/-- The creating operation of the binding and its reservations agree with its state. -/
structure CreatedBy (L : Ledger) (id : String) (row : BindingRow) (op : OperationRow) :
    Prop where
  stored : L.operations row.creationIntent = some op
  creates : op.request.context.operation.creates = true
  binding : op.admission.binding.bindingId = id
  stage : row.state.fits op.stage = true
  reservations : L.ReservationsAre row.creationIntent row.state.reservation

/-- **Coherence** of bindings, operations and reservations. -/
structure Coherent (L : Ledger) : Prop where
  creation : ∀ id row, L.bindings id = some row → ∃ op, L.CreatedBy id row op
  created : ∀ id op, L.operations id = some op → op.request.context.operation.creates = true →
    ∃ row, L.bindings op.admission.binding.bindingId = some row ∧ row.creationIntent = id
  released : ∀ id op, L.operations id = some op → op.stage = .released →
    op.request.context.operation.creates = true ∨ op.request.context.operation.releases = true
  compensated : ∀ id op, L.operations id = some op → op.stage = .compensated →
    op.request.context.operation.creates = true

theorem Coherent.empty : Coherent Ledger.empty where
  creation := by simp [Ledger.empty]
  created := by simp [Ledger.empty]
  released := by simp [Ledger.empty]
  compensated := by simp [Ledger.empty]

/-- The binding of a creating operation. -/
theorem Coherent.createdBy (coherent : L.Coherent) (hop : L.operations id = some op)
    (hcreates : op.request.context.operation.creates = true) :
    ∃ row, L.bindings op.admission.binding.bindingId = some row ∧ row.creationIntent = id ∧
      L.CreatedBy op.admission.binding.bindingId row op := by
  obtain ⟨row, hrow, hcrea⟩ := coherent.created id op hop hcreates
  obtain ⟨op', hcreated⟩ := coherent.creation _ row hrow
  have heq := hcreated.stored
  rw [hcrea, hop, Option.some.injEq] at heq
  exact ⟨row, hrow, hcrea, heq ▸ hcreated⟩

/-- Only an operation that creates or releases a binding reaches a final stage. -/
theorem Coherent.not_final (coherent : L.Coherent) (hop : L.operations id = some op)
    (hcreates : op.request.context.operation.creates = false)
    (hrels : op.request.context.operation.releases = false) : op.stage.isFinal = false := by
  cases hstage : op.stage with
  | released =>
    have hkind := coherent.released id op hop hstage
    simp [hcreates, hrels] at hkind
  | compensated =>
    have hkind := coherent.compensated id op hop hstage
    simp [hcreates] at hkind
  | _ => rfl

theorem not_creates_of_host {operation : Operation} (h : operation.isHost = true) :
    operation.creates = false ∧ operation.releases = false := by
  cases operation <;> simp [Operation.isHost] at h ⊢ <;> exact ⟨rfl, rfl⟩

/-! ## Stages -/

/-- How a step may change the stage of an operation. -/
inductive StageChange (L' : Ledger) (op op' : OperationRow) : Prop
  | same (stage_eq : op'.stage = op.stage)
  | moved (before : op.stage.isFinal = false) (after : op'.stage.isFinal = false)
  | compensated (before : op.stage.isFinal = false) (after : op'.stage = .compensated)
      (creates : op.request.context.operation.creates = true)
  | released (before : op.stage.isFinal = false) (after : op'.stage = .released)
      (kind : op.request.context.operation.creates = true ∨
        op.request.context.operation.releases = true)
      (removed : ∃ row', L'.bindings op.admission.binding.bindingId = some row' ∧
        row'.state = .removed)

private theorem Coherent.not_final_of_host (coherent : L.Coherent)
    (hop : L.operations id = some op) (hhost : op.request.context.operation.isHost = true) :
    op.stage.isFinal = false := by
  obtain ⟨hcreates, hrels⟩ := not_creates_of_host hhost
  exact coherent.not_final hop hcreates hrels

private theorem not_creates_of_releases {operation : Operation} (h : operation.releases = true) :
    operation.creates ≠ true := by
  cases operation <;> simp [Operation.creates, Operation.releases] at h ⊢

private theorem Coherent.not_final_of_releases (coherent : L.Coherent)
    (hop : L.operations id = some op) (hrels : op.request.context.operation.releases = true)
    (hstage : op.stage ≠ .released) :
    op.stage.isFinal = false := by
  cases hcompensated : op.stage with
  | released => exact absurd hcompensated hstage
  | compensated =>
    exact absurd (coherent.compensated id op hop hcompensated) (not_creates_of_releases hrels)
  | _ => rfl

/-- The creating operation of a binding, by the id the binding has for it. -/
private theorem Coherent.createdBy_of_binding (coherent : L.Coherent) {opId}
    (hrow : L.bindings id = some row) (hcrea : row.creationIntent = opId)
    (hop : L.operations opId = some op) :
    L.CreatedBy id row op := by
  subst hcrea
  obtain ⟨op', hcreated⟩ := coherent.creation id row hrow
  exact Option.mem_unique hcreated.stored hop ▸ hcreated

/-- The binding of a running operation that creates one names it as its creating operation. -/
private theorem Coherent.creationIntent_eq (coherent : L.Coherent) {admission}
    (runs : L.Runs admission op) (hcreates : op.request.context.operation.creates = true)
    (hrow : L.bindings admission.binding.bindingId = some row) :
    row.creationIntent = admission.intentId := by
  obtain ⟨row', hrow', hcrea⟩ := coherent.created _ op runs.stored hcreates
  rw [runs.token, hrow, Option.some.injEq] at hrow'
  exact hrow' ▸ hcrea

/-- **Stages**: a step leaves an operation in a final stage alone. -/
theorem Step.stage_change (h : Step L event L') (coherent : L.Coherent) (sound : L.Sound)
    (hop : L.operations id = some op) (hop' : L'.operations id = some op') :
    StageChange L' op op' := by
  obtain ⟨op'', hop'', -, hmove⟩ := (h.operations sound).stays hop
  cases hop''.symm.trans hop'
  generalize hstage : op'.stage = stage at hmove
  cases hmove with
  | same => exact .same hstage
  | advanced running next =>
    refine .moved ?_ (hstage ▸ ?_)
    · revert running
      cases op.stage <;> simp [Stage.isFinal]
    · unfold advanced
      split
      · simp [*, Stage.isFinal]
      · rcases next with rfl | rfl <;> rfl
  | host host live =>
    refine .moved (coherent.not_final_of_host hop host) ?_
    rw [hstage]
    cases stage <;> first | rfl | exact absurd rfl live.1 | exact absurd rfl live.2
  | settled turn =>
    exact .moved (coherent.not_final hop (by rw [turn]; rfl) (by rw [turn]; rfl))
      (by rw [hstage]; rfl)
  | published ready =>
    refine .moved ?_ (by rw [hstage]; rfl)
    rcases ready with hready | hready <;> rw [hready] <;> rfl
  | compensating ready =>
    refine .moved ?_ (by rw [hstage]; rfl)
    rcases ready with hready | hready | hready <;> rw [hready] <;> rfl
  | compensated goes unpublished creation =>
    have hcreated := coherent.createdBy_of_binding goes.before creation hop
    refine .compensated (Stage.isFinal_eq_false_of_fits hcreated.stage ?_) hstage hcreated.creates
    rcases unpublished with hstate | hstate <;> simp [hstate]
  | released goes releasing role =>
    rcases role with hcrea | ⟨hrels, hunfin, rfl, -⟩
    · have hcreated := coherent.createdBy_of_binding goes.before hcrea hop
      refine .released (Stage.isFinal_eq_false_of_fits hcreated.stage (by simp [releasing])) hstage
        (.inl hcreated.creates) ?_
      rw [hcreated.binding]
      exact ⟨_, goes.after, rfl⟩
    · exact .released (coherent.not_final_of_releases hop hrels hunfin) hstage
        (.inr hrels) ⟨_, goes.after, rfl⟩

/-! ## Coherence is kept -/

private theorem ReservationsAre.frame {state} (h : L.ReservationsAre id state)
    (heq : ∀ kind, L'.reservations (id, kind) = L.reservations (id, kind)) :
    L'.ReservationsAre id state := by
  obtain ⟨⟨kind, row, hrow⟩, hall⟩ := h
  exact ⟨⟨kind, row, (heq kind).trans hrow⟩, fun kind row hrow => hall kind row (heq kind ▸ hrow)⟩

private theorem ReservationsAre.map {state state'} (h : L.ReservationsAre id state)
    {change : ResourceKind → ReservationRow → ReservationRow}
    (heq : ∀ kind, L'.reservations (id, kind) = (L.reservations (id, kind)).map (change kind))
    (hchange : ∀ kind row, row.state = state → (change kind row).state = state') :
    L'.ReservationsAre id state' := by
  obtain ⟨⟨kind, row, hrow⟩, hall⟩ := h
  refine ⟨⟨kind, _, (heq kind).trans (congrArg (Option.map _) hrow)⟩, ?_⟩
  intro kind row' hrow'
  rw [heq] at hrow'
  obtain ⟨row, hrow, rfl⟩ := Option.map_eq_some_iff.1 hrow'
  exact hchange kind row (hall kind row hrow)

private theorem ReservationsAre.committed (h : L.ReservationsAre id .reserved)
    (heq : L'.reservations = committed L.reservations id) : L'.ReservationsAre id .committed :=
  h.map (fun _ => congrFun heq _) fun _ row hrow => by rw [if_pos ⟨rfl, hrow⟩]

private theorem ReservationsAre.returned {state} (h : L.ReservationsAre id state)
    (heq : L'.reservations = returned L.reservations ids) (hid : id ∈ ids) :
    L'.ReservationsAre id .released :=
  h.map (fun _ => congrFun heq _) fun _ row _ => by rw [if_pos hid]

/-- The creating operation of a binding after a step that may have moved the binding. -/
private theorem CreatedBy.step {row'} (hcreated : L.CreatedBy id row op)
    (sound : L.Sound) (h : Step L event L') (hcrea : row'.creationIntent = row.creationIntent)
    (hfits : ∀ op', L'.operations row.creationIntent = some op' → row'.state.fits op'.stage = true)
    (hresv : L'.ReservationsAre row.creationIntent row'.state.reservation) :
    ∃ op', L'.CreatedBy id row' op' := by
  obtain ⟨op', hop', hcont, -⟩ := (h.operations sound).stays hcreated.stored
  refine ⟨op', hcrea ▸ hop', ?_, ?_, hfits op' hop', hcrea ▸ hresv⟩
  · rw [hcont.request]
    exact hcreated.creates
  · rw [hcont.binding]
    exact hcreated.binding

private theorem fits_advanced
    (hbef : [Stage.prepared, .accepted, .unknown, .releasing, .compensating].contains
      op.stage = true) (hnext : stage = .unknown ∨ stage = .accepted)
    (hfits : state.fits op.stage = true) : state.fits (advanced op stage).stage = true := by
  unfold advanced
  cases hstage : op.stage <;> rw [hstage] at hbef hfits <;> rcases hnext with rfl | rfl <;>
    cases state <;> simp [BindingState.fits] at hbef hfits ⊢

/-- While the bindings stay as they are, a creating operation moves between stages that fit. -/
private theorem StageMove.fits (hmove : StageMove L L' id op stage)
    (hbinds : L'.bindings = L.bindings)
    (hcreates : op.request.context.operation.creates = true) (hfits : state.fits op.stage = true) :
    state.fits stage = true := by
  have hstays : ∀ {id : String} {row : BindingRow} {state : BindingState},
      Goes L L' id row state → row.state = state := by
    intro id row state goes
    have hafter := goes.after
    rw [hbinds, goes.before, Option.some.injEq] at hafter
    exact congrArg BindingRow.state hafter
  cases hmove with
  | same => exact hfits
  | advanced running next => exact fits_advanced running next hfits
  | host host => exact nomatch hcreates.symm.trans (not_creates_of_host host).1
  | settled turn => exact nomatch (congrArg Operation.creates turn).symm.trans hcreates
  | published _ goes prepared | compensating _ goes prepared => cases prepared.symm.trans (hstays goes)
  | compensated goes unpublished =>
    rcases unpublished with hstate | hstate <;> cases hstate.symm.trans (hstays goes)
  | released goes releasing => cases releasing.symm.trans (hstays goes)

private theorem returned_of_not_mem (hid : id ∉ ids) (kind) :
    returned reservations ids (id, kind) = reservations (id, kind) := by
  cases hrow : reservations (id, kind) <;> simp [returned, hrow, hid]

private theorem committed_of_ne {id'} (hid : id ≠ id') (kind) :
    committed reservations id' (id, kind) = reservations (id, kind) := by
  cases hrow : reservations (id, kind) <;> simp [committed, hrow, hid]

/-- The reservations of an operation that has just been admitted. -/
private theorem reservationsAre_new (sound : L.Sound) {requested} (hfresh : L.operations id = none)
    (hadds : AddsReservations L.reservations L'.reservations id requested)
    (hrequested : requested ≠ []) : L'.ReservationsAre id .reserved := by
  obtain ⟨first, hfirst⟩ := List.exists_mem_of_ne_nil requested hrequested
  obtain ⟨row, hrow, -⟩ := hadds.added first hfirst
  refine ⟨⟨first.kind, row, hrow⟩, fun kind row hrow => ?_⟩
  rcases hadds.new _ row hrow with hold | ⟨-, -, hstate⟩
  · obtain ⟨op, hop⟩ := sound.reservation_owner id kind row hold
    cases hfresh.symm.trans hop
  · exact hstate

/-- What is admitted has not ended. -/
private theorem Admitted.not_final (h : Admitted L L' id op) :
    op.stage.isFinal = false := by
  cases h <;> rfl

section

variable (coherent : L.Coherent) (sound : L.Sound) (h : Step L event L')
include coherent sound h

section

variable (hrow : L'.bindings id = some row)
include hrow

/-- A step that leaves bindings and reservations alone. -/
private theorem creation_frame (hbinds : L'.bindings = L.bindings)
    (hresv : L'.reservations = L.reservations) : ∃ op', L'.CreatedBy id row op' := by
  rw [hbinds] at hrow
  obtain ⟨op, hcreated⟩ := coherent.creation id row hrow
  refine hcreated.step sound h rfl (fun op' hop' => ?_)
    (hcreated.reservations.frame fun _ => by rw [hresv])
  obtain ⟨op'', hop'', -, hmove⟩ := (h.operations sound).stays hcreated.stored
  cases hop''.symm.trans hop'
  exact hmove.fits hbinds hcreated.creates hcreated.stage

/-- A step on one binding: the operations and reservations of the others are left alone. -/
private theorem creation_update {key old new} (hold : L.bindings key = some old)
    (hbinds : L'.bindings = update L.bindings key (some new))
    (hoth : ∀ id op, L.operations id = some op →
      op.request.context.operation.creates = true → id ≠ old.creationIntent →
      L'.operations id = some op ∧ ∀ kind, L'.reservations (id, kind) = L.reservations (id, kind))
    (hcrea : new.creationIntent = old.creationIntent)
    (hfits : ∀ op op', L.CreatedBy key old op → L'.operations old.creationIntent = some op' →
      new.state.fits op'.stage = true)
    (hresv : L.ReservationsAre old.creationIntent old.state.reservation →
      L'.ReservationsAre old.creationIntent new.state.reservation) :
    ∃ op', L'.CreatedBy id row op' := by
  obtain ⟨opOld, hcreatedOld⟩ := coherent.creation key old hold
  rw [hbinds] at hrow
  refine forall_update (P := fun id row => ∃ op', L'.CreatedBy id row op')
    (hcreatedOld.step sound h hcrea (hfits opOld · hcreatedOld)
      (hresv hcreatedOld.reservations)) ?_ hrow
  intro id row hne hrow
  obtain ⟨op, hcreated⟩ := coherent.creation id row hrow
  -- two bindings are not created by one operation
  have hcrea : row.creationIntent ≠ old.creationIntent := by
    intro heq
    have hop := hcreated.stored
    rw [heq, hcreatedOld.stored, Option.some.injEq] at hop
    exact hne (by rw [← hcreated.binding, ← hcreatedOld.binding, hop])
  obtain ⟨hop', hresv⟩ := hoth _ op hcreated.stored hcreated.creates hcrea
  refine hcreated.step sound h rfl (fun op' hop'' => ?_) (hcreated.reservations.frame hresv)
  rw [Option.mem_unique hop'' hop']
  exact hcreated.stage

/-- The admission of an operation that creates a binding. -/
private theorem creation_admitNew {request epochs}
    (hvalid : ValidRequest request) (hcreates : request.context.operation.creates = true)
    (hfresh : L.operations request.context.intentId = none)
    (hbinds : L'.bindings = update L.bindings request.binding.bindingId
      (some (newBindingRow request)))
    (hops : L'.operations = update L.operations request.context.intentId
      (some (newOperationRow request epochs)))
    (hadds : AddsReservations L.reservations L'.reservations request.context.intentId
      request.reservations) :
    ∃ op', L'.CreatedBy id row op' := by
  rw [hbinds] at hrow
  refine forall_update (P := fun id row => ∃ op', L'.CreatedBy id row op') ?_ ?_ hrow
  · refine ⟨newOperationRow request epochs, ?_, hcreates, rfl, rfl, ?_⟩
    · rw [hops]
      exact update_self ..
    · exact reservationsAre_new sound hfresh hadds (hvalid.reservations_ne_nil hcreates)
  · intro id row _ hrow
    obtain ⟨op, hcreated⟩ := coherent.creation id row hrow
    have hne : row.creationIntent ≠ request.context.intentId := by
      intro heq
      exact absurd (hfresh.symm.trans (heq ▸ hcreated.stored)) (by simp)
    refine hcreated.step sound h rfl (fun op' hop' => ?_)
      (hcreated.reservations.frame fun _ => hadds.toGrows.frame fun _ hnew => hne hnew.1)
    rw [hops, update_of_ne hne, hcreated.stored, Option.some.injEq] at hop'
    exact hop' ▸ hcreated.stage

private theorem creation_step : ∃ op', L'.CreatedBy id row op' := by
  -- a step writes no binding, a new one, or one that exists with its creation
  have hframe := creation_frame coherent sound h hrow
  have hnew := @creation_admitNew id row L L' event coherent sound h hrow
  have hupd := @creation_update id row L L' event coherent sound h hrow
  have hfresh : ∀ {fresh : String} {new : OperationRow}, L.operations fresh = none → ∀ id op,
      L.operations id = some op → update L.operations fresh (some new) id = some op :=
    fun hnone => (Table.Grows.update (P := fun _ _ => True) hnone trivial).keep
  cases h with
  | admitNew valid creates fresh _ _ _ _ adds_reservations =>
    exact hnew valid creates fresh rfl rfl adds_reservations
  | @admitExisting request _ _ _ _ _ _ _ fresh bound active =>
    by_cases hturn : request.context.operation = .turn
    · exact hframe (if_pos hturn) rfl
    · refine hupd bound (if_neg hturn)
        (fun id op hop hcreates _ => ⟨hfresh fresh id op hop, fun _ => rfl⟩)
        rfl (fun op op' hcreated hop' => ?_) fun hall => ?_
      -- an active binding has a published creation, which fits a releasing binding, too
      · have hfits := hcreated.stage
        rw [active] at hfits
        rw [Option.mem_unique hop' (hfresh fresh _ op hcreated.stored),
          (BindingState.eq_of_fits hfits).2.2.1.1 (.inl rfl)]
        rfl
      · rw [active] at hall
        exact hall.frame fun _ => rfl
  | publish _ runs creates _ _ bound prepared =>
    have hcrea := coherent.creationIntent_eq runs.toRuns creates bound
    refine hupd bound rfl (fun id op hop _ hne => ?_) rfl (fun op op' _ hop' => ?_) fun hall => ?_
    · rw [hcrea] at hne
      exact ⟨(update_of_ne hne _ _).trans hop, committed_of_ne hne⟩
    · dsimp only at hop'
      rw [hcrea, update_self, Option.some.injEq] at hop'
      rw [← hop']
      rfl
    · rw [prepared] at hall
      exact hall.committed (by rw [hcrea])
  | beginCompensation runs _ bound prepared creation =>
    refine hupd bound rfl (fun id op hop _ hne => ?_) rfl (fun op op' _ hop' => ?_) fun hall => ?_
    · rw [creation] at hne
      exact ⟨(update_of_ne hne _ _).trans hop, fun _ => rfl⟩
    · dsimp only at hop'
      rw [creation, update_self, Option.some.injEq] at hop'
      rw [← hop']
      rfl
    · rw [prepared] at hall
      exact hall.frame fun _ => rfl
  | finishCompensation runs _ bound _ creation =>
    refine hupd bound rfl (fun id op hop _ hne => ?_) rfl (fun op op' _ hop' => ?_) fun hall => ?_
    · rw [creation] at hne
      exact ⟨(update_of_ne hne _ _).trans hop, returned_of_not_mem (List.mem_singleton.not.2 hne)⟩
    · dsimp only at hop'
      rw [creation, update_self, Option.some.injEq] at hop'
      rw [← hop']
      rfl
    · exact hall.returned rfl (by simp [creation])
  | @release admission _ row _ _ runs releases _ _ _ bound =>
    refine hupd bound rfl (fun id op hop hcreates hne => ?_) rfl (fun op op' hcreated hop' => ?_)
      fun hall => ?_
    · -- the releasing operation creates nothing
      have hid : id ∉ [row.creationIntent, admission.intentId] := by
        rw [List.mem_pair, not_or]
        refine ⟨hne, ?_⟩
        rintro rfl
        rw [Option.mem_unique runs.stored hop] at releases
        exact not_creates_of_releases releases hcreates
      exact ⟨by simp only [restaged, hop, Option.map_some, if_neg hid], returned_of_not_mem hid⟩
    · simp only [restaged, hcreated.stored, Option.map_some, List.mem_cons, true_or, if_true,
        Option.some.injEq] at hop'
      rw [← hop']
      rfl
    · exact hall.returned rfl (by simp)
  | _ => exact hframe rfl rfl

end

private theorem created_step (hop' : L'.operations id = some op')
    (hcreates : op'.request.context.operation.creates = true) :
    ∃ row', L'.bindings op'.admission.binding.bindingId = some row' ∧ row'.creationIntent = id := by
  rcases (h.operations sound).origin hop' with ⟨-, hnew⟩ | ⟨op, hop, hcont, -⟩
  · cases hnew with
    | ordinary _ id_eq _ created => exact ⟨_, created hcreates, id_eq.symm⟩
    | @host prepared _ operation_eq =>
      have hhost : prepared.context.operation.isHost = true := by
        rw [operation_eq]
        exact isHost_operation _
      exact absurd hcreates
        (by simp [hostOperationRow, hostJointRequest, not_creates_of_host hhost])
    | cleanup => exact Bool.noConfusion hcreates
  · rw [hcont.request] at hcreates
    obtain ⟨row, hrow, hcrea⟩ := coherent.created id op hop hcreates
    obtain ⟨row', hrow', hmove⟩ := h.bindings.stays hrow
    exact ⟨row', hcont.binding ▸ hrow', hmove.continues.creation.trans hcrea⟩

private theorem final_step (hop' : L'.operations id = some op') :
    (op'.stage = .released → op'.request.context.operation.creates = true ∨
      op'.request.context.operation.releases = true) ∧
    (op'.stage = .compensated → op'.request.context.operation.creates = true) := by
  rcases (h.operations sound).origin hop' with ⟨-, hnew⟩ | ⟨op, hop, hcont, -⟩
  · have hfinal := hnew.not_final
    constructor <;> intro hstage <;> rw [hstage] at hfinal <;> exact Bool.noConfusion hfinal
  · rw [hcont.request]
    cases h.stage_change coherent sound hop hop' with
    | same stage_eq =>
      rw [stage_eq]
      exact ⟨coherent.released id op hop, coherent.compensated id op hop⟩
    | moved _ after =>
      constructor <;> intro hstage <;> rw [hstage] at after <;> exact Bool.noConfusion after
    | compensated _ after creates => exact ⟨fun _ => .inl creates, fun _ => creates⟩
    | released _ after kind =>
      rw [after]
      exact ⟨fun _ => kind, fun hstage => Stage.noConfusion hstage⟩

/-- Coherence is kept by every step. -/
theorem Coherent.step : L'.Coherent where
  creation := fun _ _ => creation_step coherent sound h
  created := fun _ _ => created_step coherent sound h
  released := fun _ _ hop' => (final_step coherent sound h hop').1
  compensated := fun _ _ hop' => (final_step coherent sound h hop').2

end

theorem Reached.coherent (h : L.Reached) : L.Coherent := by
  have hboth : L.Sound ∧ L.Coherent := by
    refine Reachable.invariant (P := fun L : Ledger => L.Sound ∧ L.Coherent)
      ⟨.empty, .empty⟩ ?_ h
    rintro L event L' ⟨sound, coherent⟩ hstep
    exact ⟨sound.step hstep, coherent.step sound hstep⟩
  exact hboth.2

/-! ## What has ended stays ended -/

/-- A reservation that was given back stays so. -/
theorem Step.released_stays (h : Step L event L') {key row} (hrow : L.reservations key = some row)
    (hrel : row.state = .released) : L'.reservations key = some row := by
  have hret : ∀ ids : List String, returned L.reservations ids key = some row := by
    intro ids
    simp only [returned, hrow, Option.map_some, Option.some.injEq]
    split
    · rw [← hrel]
    · rfl
  cases h with
  | admitNew _ _ _ _ _ _ _ adds_reservations => exact adds_reservations.keep key row hrow
  | publish => simp [committed, hrow, hrel]
  | finishCompensation | release => exact hret _
  | _ => exact hrow

/-- An operation that was released or compensated stays so. -/
theorem Step.final_stays (h : Step L event L') (coherent : L.Coherent) (sound : L.Sound)
    (hop : L.operations id = some op) (hfinal : op.stage.isFinal = true) :
    ∃ op', L'.operations id = some op' ∧ op'.stage = op.stage := by
  obtain ⟨op', hop', -⟩ := (h.operations sound).stays hop
  refine ⟨op', hop', ?_⟩
  cases h.stage_change coherent sound hop hop' with
  | same stage_eq => exact stage_eq
  | moved before | compensated before | released before =>
    cases hfinal.symm.trans before

end Ledger

open Domain Lib

/-! ## Coherence of the store -/

/-- All reservations of the operation are in the state. -/
def ReservationsIn (s : Db) (id : String) (state : ReservationState) : Prop :=
  ∀ kind row, s.reservations.get? (id, kind) = some row → row.state = state

/-- What has ended stays ended, in every run from a reachable database. -/
private theorem ended_of_run {config s s' tr}
    (h : StoreReachable config s) (hrun : Run (Commit config) s tr s') :
    (∀ key row, s.reservations.get? key = some row → row.state = .released →
      s'.reservations.get? key = some row) ∧
    (∀ id op, s.operations.get? id = some op → op.stage.isFinal = true →
      ∃ op', s'.operations.get? id = some op' ∧ op'.stage = op.stage) := by
  induction hrun with
  | nil => exact ⟨fun _ _ hrow _ => hrow, fun _ op hop _ => ⟨op, hop, rfl⟩⟩
  | snoc hrun hcom ih =>
    have hreached := ledger_reached (h.run hrun)
    have hstep := commit_refines hcom
    refine ⟨fun key row hrow hrel => ?_, fun id op hop hfinal => ?_⟩
    · exact hstep.released_stays (ih.1 key row hrow hrel) hrel
    · obtain ⟨op', hop', hstage⟩ := ih.2 id op hop hfinal
      obtain ⟨op'', hop'', hstage'⟩ := hstep.final_stays hreached.coherent hreached.sound hop'
        (hstage ▸ hfinal)
      exact ⟨op'', hop'', hstage'.trans hstage⟩

/-- **Binding lifecycle coherence**: in every database that committed transactions lead to, the
state of a binding agrees with the stage of the operation that created it and the states of
that operation's reservations.  A reservation that was given back and an operation that was
released or compensated stay so in every run from there. -/
theorem binding_lifecycle_coherent {config : StoreConfig} {s : Db}
    (h : StoreReachable config s) :
    (∀ id row, s.bindings.get? id = some row → ∃ op,
      s.operations.get? row.creationIntent = some op ∧
      op.request.context.operation.creates = true ∧ op.admission.binding.bindingId = id ∧
      (row.state = .prepared ↔
        (op.stage = .prepared ∨ op.stage = .accepted ∨ op.stage = .unknown) ∧
          ReservationsIn s row.creationIntent .reserved) ∧
      (row.state = .compensating ↔
        op.stage = .compensating ∧ ReservationsIn s row.creationIntent .reserved) ∧
      (row.state = .active ∨ row.state = .releasing ↔
        op.stage = .published ∧ ReservationsIn s row.creationIntent .committed) ∧
      (row.state = .removed ↔
        (op.stage = .released ∨ op.stage = .compensated) ∧
          ReservationsIn s row.creationIntent .released)) ∧
    ∀ tr s', Run (Commit config) s tr s' →
      (∀ key row, s.reservations.get? key = some row → row.state = .released →
        s'.reservations.get? key = some row) ∧
      (∀ id op, s.operations.get? id = some op → op.stage = .released ∨ op.stage = .compensated →
        ∃ op', s'.operations.get? id = some op' ∧ op'.stage = op.stage) := by
  refine ⟨fun id row hrow => ?_, fun tr s' hrun => ?_⟩
  · obtain ⟨op, hcreated⟩ := (ledger_reached h).coherent.creation id row hrow
    obtain ⟨hprep, hcomp, hpub, hrem⟩ :=
      BindingState.eq_of_fits hcreated.stage
    have hall : ∀ state, state = row.state.reservation →
        ReservationsIn s row.creationIntent state := by
      rintro _ rfl
      exact hcreated.reservations.all
    refine ⟨op, hcreated.stored, hcreated.creates, hcreated.binding, ?_, ?_, ?_, ?_⟩
    · exact ⟨fun hstate => ⟨hprep.1 hstate, hall _ (by rw [hstate]; rfl)⟩,
        fun hstage => hprep.2 hstage.1⟩
    · exact ⟨fun hstate => ⟨hcomp.1 hstate, hall _ (by rw [hstate]; rfl)⟩,
        fun hstage => hcomp.2 hstage.1⟩
    · refine ⟨fun hstate => ⟨hpub.1 hstate, hall _ ?_⟩, fun hstage => hpub.2 hstage.1⟩
      rcases hstate with hstate | hstate <;> rw [hstate] <;> rfl
    · exact ⟨fun hstate => ⟨hrem.1 hstate, hall _ (by rw [hstate]; rfl)⟩,
        fun hstage => hrem.2 hstage.1⟩
  · obtain ⟨hresv, hops⟩ := ended_of_run h hrun
    refine ⟨hresv, fun id op hop hstage => hops id op hop ?_⟩
    rcases hstage with hstage | hstage <;> rw [hstage] <;> rfl

/-- An open session whose creation failed and was compensated. -/
def compensatedCalls : List Call :=
  [.prepareJointOperation openRequest, .claimJointNativeSend openAdmission "create",
    .recordJointNativeResult openAdmission "create" "00000000-0000-0000-0000-000000000001"
      "0000000000000000000000000000000000000000000000000000000000000000"
      ⟨.failed, [], .null⟩,
    .beginJointCompensation openAdmission, .finishJointCompensation openAdmission]

/-- Its binding is removed, and its reservations are given back. -/
theorem binding_lifecycle_of_compensated :
    let s := execAll smallConfig compensatedCalls Db.empty
    (s.bindings.get? "binding").any
      (fun row => row.state = .removed && row.creationIntent = "open") = true ∧
    ReservationsIn s "open" .released := by
  intro s
  have hrem : (s.bindings.get? "binding").any
      (fun row => row.state = .removed && row.creationIntent = "open") = true := by
    decide +kernel
  obtain ⟨row, hrow, hstate⟩ := (Option.any_eq_true _ _).1 hrem
  simp only [Bool.and_eq_true, decide_eq_true_eq] at hstate
  obtain ⟨op, -, -, -, -, -, -, hiff⟩ :=
    (binding_lifecycle_coherent (storeReachable_execAll smallConfig _)).1 "binding" row hrow
  exact ⟨hrem, hstate.2 ▸ (hiff.1 hstate.1).2⟩

end XGovernor.Joint
