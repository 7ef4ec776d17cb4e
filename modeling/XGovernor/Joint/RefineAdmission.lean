import XGovernor.Joint.Effects

/-!
# Refinement: admission

A committed admission has the effect that `Effect` gives it, and is one step of the ledger: the
binding, the fence, the operation, its reservations, its reference and its native steps appear
together.
-/

namespace XGovernor.Joint

open Domain Lib Table Tx
open Ledger (Step Event)

variable {s s' : Db} {u : Unit}
variable {request : JointPrepareRequest} {id : String} {budgetPolicy : JointBudgetPolicy}
  {reservation : JointResourceReservation} {kind : FenceKind}

/-! ## Footprints -/

private def rootMask : Mask Db where
  copy := fun t s => { s with workspaceClaims := t.workspaceClaims, roots := t.roots }
  copy_self := Eq.refl
  copy_copy := fun _ _ _ => rfl

private theorem within_admitRoot :
    (admitRoot request).Within rootMask := by
  refine within_bind (within_forSome fun _ => within_insertRow fun _ _ => rfl) fun _ =>
    within_ite (within_insertRow fun _ _ => rfl) ?_
  exact within_bind within_get fun _ => within_require

def fenceMask : Mask Db where
  copy := fun t s => { s with fences := t.fences }
  copy_self := Eq.refl
  copy_copy := fun _ _ _ => rfl

private theorem within_acquireFences :
    (acquireFences request).Within fenceMask := by
  refine within_bind (within_modify fun _ => rfl) fun _ =>
    within_bind within_queryRow fun _ => within_bind within_require fun _ =>
    within_ite ?_ ?_
  · exact within_bind within_get fun _ => within_bind within_require fun _ =>
      within_bind (within_modify fun _ => rfl) fun _ => within_pure
  · exact within_bind (within_modify fun _ => rfl) fun _ =>
      within_bind within_queryRow fun _ => within_bind within_require fun _ =>
      within_bind (within_modify fun _ => rfl) fun _ =>
      within_bind within_queryRow fun _ => within_pure

private def reservationMask : Mask Db where
  copy := fun t s => { s with reservations := t.reservations }
  copy_self := Eq.refl
  copy_copy := fun _ _ _ => rfl

private theorem within_reserve :
    (reserve budgetPolicy request reservation).Within reservationMask :=
  within_bind within_get fun _ => within_bind within_require fun _ =>
    within_bind within_require fun _ => within_insertRow fun _ _ => rfl

def stepMask : Mask Db where
  copy := fun t s => { s with steps := t.steps }
  copy_self := Eq.refl
  copy_copy := fun _ _ _ => rfl

/-! ## Fences -/

theorem ledger_ensureFence {rootId tenant}
    (h : (ensureFence kind id rootId tenant).run s = .ok (u, s')) :
    s'.ledger = { s.ledger with
      fences := Ledger.ensured s.ledger.fences (kind, id) rootId tenant } :=
  ledger_addFence h

theorem modified_eq_taken (fences : FenceKind × String → Option FenceRow)
    (key : FenceKind × String) (holder : String) :
    Table.modified fences (fun k _ => k = key)
      (fun fence => { fence with epoch := fence.epoch + 1, holder := some holder }) =
      Ledger.taken fences key holder := by
  funext k
  simp [Table.modified, Ledger.taken]

theorem ledger_takeFence {holder} (h : (takeFence kind id holder).run s = .ok (u, s')) :
    s'.ledger = { s.ledger with
      fences := Ledger.taken s.ledger.fences (kind, id) holder } := by
  simp only [ledger_updateFences h, modified_eq_taken]

theorem acquireFences_ledger {epochs} (h : (acquireFences request).run s = .ok (epochs, s')) :
    Ledger.Acquires s.ledger.fences request request.context.intentId
      (tenantKey request.context.tenantId) epochs.1 epochs.2 s'.ledger.fences := by
  simp only [acquireFences, checks, run_queryRow_eq_ok, Bool.and_eq_true, decide_eq_true_eq,
    Option.isNone_iff_eq_none] at h
  obtain ⟨_, t, hensure, root, hroot, -, hfree, h⟩ := h
  have e₁ := ledger_ensureFence hensure
  change t.ledger.fences _ = _ at hroot
  simp only [e₁] at hroot
  split at h
  · rename_i hexcl
    simp only [checks, run_pure_eq_ok, Bool.not_eq_true'] at h
    obtain ⟨hsources, _, t', htake, rfl, rfl⟩ := h
    have e₂ := ledger_takeFence htake
    refine ⟨⟨root, hroot, hfree, by simp [hexcl]⟩, ?_, ?_⟩
    · intro _
      refine ⟨fun source fence hfence hid => ?_, rfl, by simp only [e₂, e₁]⟩
      have hfence' : t.ledger.fences (.source, source) = some fence := by
        rw [e₁]
        exact hfence
      simpa [hid] using Table.any_eq_false_iff.1 hsources (.source, source) fence hfence'
    · simp [hexcl]
  · rename_i hord
    simp only [checks, run_queryRow_eq_ok, run_pure_eq_ok, Bool.and_eq_true,
      decide_eq_true_eq, Option.isNone_iff_eq_none] at h
    obtain ⟨_, t₁, hensure', source, hsrc, hid, hsource_free, _, t₂, htake, held, hheld,
      rfl, rfl⟩ := h
    have e₂ := ledger_ensureFence hensure'
    have e₃ := ledger_takeFence htake
    -- the epoch that is read back is the one the statement before has just started
    have hepoch : held.epoch = source.epoch + 1 := by
      change s'.ledger.fences _ = _ at hheld
      change t₁.ledger.fences _ = _ at hsrc
      simp only [e₃, Ledger.taken, hsrc, Option.map_some, if_true, Option.some.injEq]
        at hheld
      rw [← hheld]
    change t₁.ledger.fences _ = _ at hsrc
    simp only [e₂, e₁] at hsrc
    refine ⟨⟨root, hroot, hfree, by simp [hord]⟩, ?_, ?_⟩
    · intro hexcl
      exact absurd hexcl hord
    · intro _
      exact ⟨⟨source, hsrc, hid, hsource_free, by rw [hepoch]⟩, by simp only [e₃, e₂, e₁]⟩

/-! ## Reservations, references and steps -/

private theorem reserve_ledger
    (h : (reserve budgetPolicy request reservation).run s = .ok (u, s')) :
    s.ledger.reservations (request.context.intentId, reservation.kind) = none ∧
      s'.ledger = { s.ledger with
        reservations := Function.update s.ledger.reservations
          (request.context.intentId, reservation.kind)
          (some ⟨reservation.units, .reserved⟩) } := by
  simp only [reserve, insertReservation, checks, run_insertRow_eq_ok] at h
  obtain ⟨-, -, hfree, -, rfl⟩ := h
  refine ⟨hfree, ?_⟩
  simp only [Db.ledger, get?_add_eq, extended_key hfree]

private theorem reservations_ledger {requested}
    (h : (Tx.forEach requested (reserve budgetPolicy request)).run s = .ok (u, s')) :
    Ledger.AddsReservations s.ledger.reservations s'.ledger.reservations
      request.context.intentId requested := by
  induction requested generalizing s with
  | nil =>
    obtain rfl := Tx.run_forEach_nil_eq_ok.1 h
    exact ⟨.refl _ _, by simp⟩
  | cons reservation rest ih =>
    obtain ⟨t, hfirst, hrest⟩ := Tx.run_forEach_cons_eq_ok.1 h
    obtain ⟨hfree, e⟩ := reserve_ledger hfirst
    have hrest := ih hrest
    constructor
    · refine Table.Grows.trans ?_ hrest.toGrows
      rw [e]
      exact .update hfree ⟨rfl, rfl⟩
    · intro r hr
      rcases List.mem_cons.1 hr with rfl | hr
      · exact ⟨_, hrest.keep _ ⟨r.units, .reserved⟩ (by simp [e]), rfl⟩
      · exact hrest.added r hr

theorem insertSteps_ledger {natives}
    (h : (Tx.forEach natives (insertStep id)).run s = .ok (u, s')) :
    Ledger.AddsSteps s.ledger.steps s'.ledger.steps id natives := by
  induction natives generalizing s with
  | nil =>
    obtain rfl := Tx.run_forEach_nil_eq_ok.1 h
    exact ⟨.refl _ _, List.nodup_nil, by simp, by simp⟩
  | cons native rest ih =>
    obtain ⟨t, hfirst, hrest⟩ := Tx.run_forEach_cons_eq_ok.1 h
    obtain ⟨hfree, e⟩ := ledger_insertStep hfirst
    have hrest := ih hrest
    have hgrows : Table.Grows s.ledger.steps t.ledger.steps fun key row =>
        key.1 = id ∧ row.native ∈ native :: rest ∧ key.2 = row.native.step ∧
          row.outcome = none := by
      rw [e]
      exact .update hfree ⟨rfl, List.mem_cons_self, rfl, rfl⟩
    have hnat : t.ledger.steps (id, native.step) = some ⟨native, none⟩ := by simp [e]
    refine ⟨?_, ?_, ?_, ?_⟩
    · refine hgrows.trans (hrest.toGrows.mono ?_)
      rintro key row ⟨hid, hmem, hstep, hnone⟩
      exact ⟨hid, List.mem_cons_of_mem native hmem, hstep, hnone⟩
    · -- a step of the rest with this name would have found it taken
      refine List.nodup_cons.2 ⟨fun hmem => ?_, hrest.distinct⟩
      obtain ⟨n, hn, hname⟩ := List.mem_map.1 hmem
      have hfree' := hrest.free n hn
      rw [hname, hnat] at hfree'
      exact Option.some_ne_none _ hfree'
    · intro n hn
      rcases List.mem_cons.1 hn with rfl | hn
      · exact hfree
      · exact hgrows.free (hrest.free n hn)
    · intro n hn
      rcases List.mem_cons.1 hn with rfl | hn
      · exact hrest.keep _ ⟨n, none⟩ hnat
      · exact hrest.added n hn

/-! ## Identities, bindings, turns and references -/

private theorem claimPublicIdentity_eq (h : (claimPublicIdentity request).run s = .ok (u, s')) :
    (∃ publicClaims, s' = { s with publicClaims }) ∧
    (request.context.operation.creates = true →
      identityTaken s (createdIdentity request.context) = false ∧
      s.publicClaims.get? (createdIdentity request.context) = none ∧
      s'.publicClaims =
        s.publicClaims.add (createdIdentity request.context) request.context.intentId) ∧
    (request.context.operation.creates = false → s'.publicClaims = s.publicClaims) := by
  rcases Tx.run_when_eq_ok.1 h with ⟨hcreates, h⟩ | ⟨hcreates, rfl⟩
  · simp only [insertPublicClaim, checks, run_insertRow_eq_ok, Bool.not_eq_true'] at h
    obtain ⟨htaken, hfree, -, rfl⟩ := h
    exact ⟨⟨_, rfl⟩, fun _ => ⟨htaken, hfree, rfl⟩, fun hnot => by simp [hcreates] at hnot⟩
  · exact ⟨⟨_, rfl⟩, fun hnot => by simp [hcreates] at hnot, fun _ => rfl⟩

private theorem admitTurn_eq (h : (admitTurn request).run s = .ok (u, s')) :
    (∃ turns jointSessions, s' = { s with turns, jointSessions }) ∧
    (request.turn = none → s'.turns = s.turns ∧ s'.jointSessions = s.jointSessions) ∧
    ∀ turn, request.turn = some turn → AdmitsTurn s request turn s' := by
  rcases Tx.run_forSome_eq_ok.1 h with ⟨turn, hturn, h⟩ | ⟨hnone, rfl⟩
  · simp only [insertTurn, updateJointSessions, checks, run_insertRow_eq_ok, run_queryRow_eq_ok,
      run_modify_eq_ok, Bool.or_eq_true, decide_eq_true_eq] at h
    obtain ⟨hfree, hdist, session, hsess, hbound, hready, rfl⟩ := h
    refine ⟨⟨_, _, rfl⟩, fun hnone => by simp [hturn] at hnone, fun turn' hturn' => ?_⟩
    cases hturn.symm.trans hturn'
    exact ⟨hfree, hdist, rfl, session, hsess, hbound, hready, rfl⟩
  · exact ⟨⟨_, _, rfl⟩, fun _ => ⟨rfl, rfl⟩, fun turn hturn => by simp [hnone] at hturn⟩

private theorem checkParent_eq
    (h : (Tx.forSome request.parentBinding (checkParent request)).run s = .ok (u, s')) :
    (∀ parent, request.parentBinding = some parent →
      ∃ row, s.bindings.get? parent.bindingId = some row ∧ row.state = .active) ∧ s' = s := by
  rcases Tx.run_forSome_eq_ok.1 h with ⟨parent, hsome, hcheck⟩ | ⟨hnone, rfl⟩
  · simp only [checkParent, checks, run_checked_eq_ok, Bool.and_eq_true] at hcheck
    obtain ⟨-, hrow, -, -, -, rfl⟩ := hcheck
    refine ⟨fun p hp => ?_, rfl⟩
    cases hsome.symm.trans hp
    obtain ⟨row, hrow, hmatch⟩ := (Option.any_eq_true _ _).1 hrow
    simp only [Bool.and_eq_true, decide_eq_true_eq] at hmatch
    exact ⟨row, hrow, hmatch.2⟩
  · exact ⟨by simp [hnone], rfl⟩

/-- The operation is on an active binding that only the public identity it names refers to. -/
private structure OnBinding (s : Db) (request : JointPrepareRequest) (row : BindingRow) :
    Prop where
  stored : s.bindings.get? request.binding.bindingId = some row
  active : row.state = .active
  generation : row.generation = 1
  root : row.rootId = request.rootId
  tenant : row.tenantKey = tenantKey request.context.tenantId
  owns : ownsReference s (ownedReference request.context) request.binding.bindingId = true
  sole : s.refs.count (fun _ target => target = request.binding.bindingId) ≤ 1

private theorem OnBinding.owned {row} (h : OnBinding s request row) :
    ∃ publicId, (ownedReference request.context).2 = some publicId ∧
      s.refs.get? ((ownedReference request.context).1, publicId) = some request.binding.bindingId ∧
      ∀ key, s.refs.get? key = some request.binding.bindingId →
        key = ((ownedReference request.context).1, publicId) := by
  have howns := h.owns
  unfold ownsReference at howns
  cases href : (ownedReference request.context).2 with
  | none => simp [href] at howns
  | some publicId =>
    have howned : s.refs.get? ((ownedReference request.context).1, publicId) =
        some request.binding.bindingId := by simpa [href] using howns
    exact ⟨publicId, rfl, howned, fun key hkey =>
      eq_of_count_le_one h.sole hkey (by simp) howned (by simp)⟩

private theorem admitBinding_eq (h : (admitBinding request).run s = .ok (u, s')) :
    s' = { s with bindings := admittedBindings s.bindings request } ∧
    (request.context.operation.creates = false → ∃ row, OnBinding s request row) ∧
    (request.context.operation.creates = true → s.bindings.get? request.binding.bindingId = none ∧
      ∀ parent, request.parentBinding = some parent →
        ∃ row, s.bindings.get? parent.bindingId = some row ∧ row.state = .active) := by
  simp only [admitBinding, checks] at h
  split at h
  · rename_i row hrow
    simp only [admitExisting, updateBindings, checks, run_when_eq_ok, run_modify_eq_ok,
      Bool.and_eq_true, decide_eq_true_eq, decide_eq_false_iff_not, not_not] at h
    obtain ⟨-, -, -, htenant, hroot, hgen, hact, hkind, howns, hsole, -, hrel⟩ := h
    have hcreates : request.context.operation.creates = false := by
      revert hkind
      cases request.context.operation <;> simp [Operation.creates]
    refine ⟨?_, fun _ => ⟨row, hrow, hact, hgen, hroot, htenant, howns, hsole⟩,
      fun hnot => by simp [hcreates] at hnot⟩
    rcases hrel with ⟨hturn, rfl⟩ | ⟨hturn, rfl⟩
    · simp [admittedBindings, hcreates, hturn]
    · simp [admittedBindings, hturn, Operation.creates]
  · rename_i hnone
    simp only [admitNew, insertBinding, checks, run_insertRow_eq_ok, Bool.and_eq_true] at h
    obtain ⟨hcreates, -, _, t, hpar, -, -, rfl⟩ := h
    obtain ⟨hpar, rfl⟩ := checkParent_eq hpar
    exact ⟨by simp [admittedBindings, hcreates], fun hnot => by simp [hcreates] at hnot,
      fun _ => ⟨hnone, hpar⟩⟩

private theorem admitParentReference_eq (h : (admitParentReference request).run s = .ok (u, s')) :
    (∀ parent, request.parentBinding = some parent →
      s.refs.get? (.binding, request.binding.bindingId) = none) ∧
    s' = { s with
      refs := request.parentBinding.elim s.refs fun parent =>
        s.refs.add (.binding, request.binding.bindingId) parent.bindingId } := by
  rcases Tx.run_forSome_eq_ok.1 h with ⟨parent, hpar, hinsert⟩ | ⟨hnone, rfl⟩
  · obtain ⟨hfree, -, rfl⟩ := run_insertRow_eq_ok.1 hinsert
    rw [hpar]
    exact ⟨fun _ _ => hfree, rfl⟩
  · rw [hnone]
    exact ⟨nofun, rfl⟩

/-! ## The whole admission -/

theorem prepareJointOperation_commits (config) {admission}
    (h : (prepareJointOperation config.budgetPolicy request).run s = .ok (admission, s')) :
    Effect config s (.prepareJointOperation request) s' ∧ Step s.ledger .internal s'.ledger := by
  simp only [prepareJointOperation, checks, run_validated_eq_ok] at h
  obtain ⟨hvalid, h⟩ := h
  split at h
  · simp only [checks, run_pure_eq_ok] at h
    obtain ⟨-, -, rfl⟩ := h
    exact ⟨.quiet _, .internal⟩
  · rename_i hfresh
    simp only [admitOperation, run_bind_eq_ok, run_pure_eq_ok] at h
    obtain ⟨_, t₁, h₁, _, t₂, h₂, _, t₃, h₃, epochs, t₄, h₄, _, t₅, h₅, _, t₆, h₆, _, t₇, h₇, _,
      t₈, h₈, _, t₉, h₉, -, rfl⟩ := h
    -- the database after each part, as the tables that were written so far
    obtain ⟨⟨claims, rfl⟩, hclaimed, hunc⟩ := claimPublicIdentity_eq h₁
    obtain ⟨rfl, hexisting, hnew⟩ := admitBinding_eq h₂
    obtain ⟨workspaceClaims, roots, rfl⟩ :
        ∃ workspaceClaims roots, t₃ = { s with
          publicClaims := claims
          bindings := admittedBindings s.bindings request
          workspaceClaims
          roots } := ⟨_, _, within_admitRoot.run_eq _ _ _ h₃⟩
    have hacq := acquireFences_ledger h₄
    obtain ⟨fences, rfl⟩ : ∃ fences, t₄ = { s with
        publicClaims := claims
        bindings := admittedBindings s.bindings request
        workspaceClaims := workspaceClaims
        roots := roots
        fences } := ⟨_, within_acquireFences.run_eq _ _ _ h₄⟩
    obtain ⟨-, -, rfl⟩ := run_insertRow_eq_ok.1 h₅
    obtain ⟨⟨turns, jointSessions, rfl⟩, hidle, hturn⟩ := admitTurn_eq h₆
    have hresv := reservations_ledger h₇
    have e₇ := (within_forEach fun _ => within_reserve).run_eq _ _ _ h₇
    obtain ⟨hunref, rfl⟩ := admitParentReference_eq h₈
    have hsteps := insertSteps_ledger h₉
    have e₉ : s' = stepMask.copy s' _ :=
      (within_forEach fun _ => within_insertRow fun _ _ => rfl).run_eq _ _ _ h₉
    rw [e₇] at e₉ hsteps hunref
    have hledg : s'.ledger = _ := congrArg Db.ledger e₉
    constructor
    · rw [e₉]
      exact .admitJoint
        { frame := rfl
          valid := hvalid
          fresh := hfresh
          claimed := hclaimed
          unclaimed := hunc
          existing := fun hcreates =>
            have ⟨row, hrow⟩ := hexisting hcreates
            ⟨row, hrow.stored, hrow.active, hrow.generation, hrow.root, hrow.tenant, hrow.owns⟩
          unbound := fun hcreates => (hnew hcreates).1
          bindings := rfl
          refs := rfl
          acquires := ⟨epochs, rfl, hacq⟩
          idle := hidle
          turn := fun turn hsome =>
            have h := hturn turn hsome
            ⟨h.free, h.distinct, h.turns, h.session⟩
          reserved := by refine ⟨_, t₇, ?_, ?_, ?_, ?_, h₇⟩ <;> rfl }
    -- the ledger distinguishes a binding that is created from one that exists
    · have hreq := validRequest_of_validateRequest hvalid
      cases hcreates : request.context.operation.creates with
      | true =>
        obtain ⟨hunbound, hpar⟩ := hnew hcreates
        refine (Step.admitNew (L := s.ledger) hreq hcreates hfresh hunbound
          (fun parent hp => ⟨hpar parent hp, hunref parent hp⟩) hacq hsteps
          hresv).to (hledg.trans ?_)
        have hrefs : (request.parentBinding.elim s.refs fun parent =>
              s.refs.add (.binding, request.binding.bindingId) parent.bindingId).get? =
            request.parentBinding.elim s.refs.get? fun parent => Function.update s.refs.get?
              (.binding, request.binding.bindingId) (some parent.bindingId) := by
          cases hpar : request.parentBinding with
          | none => rfl
          | some parent =>
            have hfree : s.refs.get? (.binding, request.binding.bindingId) = none :=
              hunref parent hpar
            simp only [Option.elim_some, get?_add_eq, extended_key hfree]
        simp only [stepMask, reservationMask, Db.ledger, admittedBindings, hcreates, if_true,
          get?_add_eq, extended_key hfresh, extended_key hunbound, hrefs]
      | false =>
        -- no reservation and no parent reference is added
        obtain ⟨row, hrow⟩ := hexisting hcreates
        obtain ⟨publicId, href, howned, hsole⟩ := hrow.owned
        have hpar : request.parentBinding = none := by
          have hsome := hreq.parent_iff
          rw [Operation.hasParent_eq_false hcreates] at hsome
          simpa using hsome
        rw [hreq.reservations_eq_nil hcreates, run_forEach_nil_eq_ok] at h₇
        refine (Step.admitExisting (L := s.ledger) hreq hcreates hfresh hrow.stored hrow.active
          hrow.generation href howned hsole hacq hsteps).to (hledg.trans ?_)
        simp only [stepMask, reservationMask, Db.ledger, admittedBindings, hcreates, h₇, hpar,
          Option.elim_none, Bool.false_eq_true, if_false, get?_add_eq, extended_key hfresh]
        split
        · rfl
        · rw [get?_modify_eq, modified_key hrow.stored]

end XGovernor.Joint
