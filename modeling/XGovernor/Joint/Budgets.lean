import XGovernor.Joint.Intents

/-!
# Budgets

Every reservation is checked against what the owner already uses, and afterwards units are only
given back: so the bound that was checked holds from then on.  The same argument bounds the
allocations of Host operations, as long as an owner's operations agree on one policy.
-/

namespace XGovernor.Joint

open Domain Lib Ledger Table Tx

variable {config : StoreConfig} {s s' : Db} {call : Call}

/-- What the operations of an owner may use of a kind. -/
def unitLimit (policy : JointBudgetPolicy) (kind : ResourceKind) : Nat :=
  (policy kind).elim 0 fun budget => budget.total - budget.recoveryReserve

/-! ## Calls that take no units -/

/-- A call that takes no units: reservations keep their units and are not taken back once they
are released, and operations keep their owner. -/
structure TakesNone (s s' : Db) : Prop where
  reservations : ∃ p f, s'.reservations = s.reservations.modify p f ∧
    ∀ key (row : ReservationRow), p key row = true → (f row).units = row.units ∧
      (row.state = .released → (f row).state = .released)
  owner : ∀ id op, s.operations.get? id = some op →
    ∃ op', s'.operations.get? id = some op' ∧ op'.tenantKey = op.tenantKey

private theorem modify_none {K V : Type} [DecidableEq K] (t : Table K V) :
    t = t.modify (fun _ _ => false) id := by
  simp [Table.modify]

variable {request : JointPrepareRequest} {op : OperationRow}
  {operations : Table String OperationRow} {id : String}

private theorem owner_modify {p f}
    (hf : ∀ op, (f op).tenantKey = op.tenantKey) (hop : operations.get? id = some op) :
    ∃ op', (operations.modify p f).get? id = some op' ∧ op'.tenantKey = op.tenantKey := by
  rw [get?_modify, hop, Option.map_some]
  refine ⟨_, rfl, ?_⟩
  split
  · exact hf op
  · rfl

private theorem owner_add {key new} (hop : operations.get? id = some op) :
    ∃ op', (operations.add key new).get? id = some op' ∧ op'.tenantKey = op.tenantKey :=
  ⟨op, by simp [get?_add, hop], rfl⟩

/-- Operations keep their owner. -/
theorem Effect.owner_stays (heff : Effect config s call s') (hop : s.operations.get? id = some op) :
    ∃ op', s'.operations.get? id = some op' ∧ op'.tenantKey = op.tenantKey := by
  cases heff with
  | admitJoint admits =>
    obtain ⟨epochs, hops, -⟩ := admits.acquires
    rw [hops]
    exact owner_add hop
  | admitHost admits =>
    obtain ⟨epochs, _, _, hops, -⟩ := admits.admitted
    rw [hops]
    exact owner_add hop
  | delegateCleanup => exact owner_add hop
  | claimNative | record | publishSession | publishCheckpoint | settleTurn | beginCompensation
  | finishCompensation | closeSession | deleteJointCheckpoint | claimHost | recordHost | failStale
  | publishHost | suspend | endDelegation =>
    refine owner_modify ?_ hop
    exact fun _ => rfl
  | resume =>
    simp only [get?_modify, hop, Option.map_some, Option.some.injEq, exists_eq_left']
    split <;> split <;> rfl
  | _ => exact ⟨op, hop, rfl⟩

/-- Only an admission takes units. -/
theorem Effect.takesNone (heff : Effect config s call s') :
    TakesNone s s' ∨ ∃ request, call = .prepareJointOperation request ∧
      Admits config s request s' := by
  have howner : ∀ id op, s.operations.get? id = some op →
      ∃ op', s'.operations.get? id = some op' ∧ op'.tenantKey = op.tenantKey :=
    fun _ _ => heff.owner_stays
  cases heff with
  | @admitJoint request s' admits => exact .inr ⟨request, rfl, admits⟩
  | publishSession | publishCheckpoint | finishCompensation | closeSession
  | deleteJointCheckpoint =>
    refine .inl ⟨?_, howner⟩
    simp only [Db.published, Db.compensated, Db.released]
    refine ⟨_, _, rfl, ?_⟩
    intro key row hp
    refine ⟨rfl, fun hrel => ?_⟩
    first
      | rfl
      | simp [hrel] at hp
  | admitHost admits =>
    refine .inl ⟨⟨fun _ _ => false, id, ?_, by simp⟩, howner⟩
    rw [admits.frame]
    exact modify_none _
  | _ => exact .inl ⟨⟨fun _ _ => false, id, modify_none _, by simp⟩, howner⟩

/-- What is used does not grow when no units are taken. -/
theorem TakesNone.usedUnits_le (h : TakesNone s s') (sound : s.ledger.Sound) (tenant : String)
    (kind) : usedUnits s' tenant kind ≤ usedUnits s tenant kind := by
  obtain ⟨p, f, hresv, hf⟩ := h.reservations
  unfold usedUnits
  rw [hresv, sum_modify]
  refine sum_le_sum fun key row hrow => ?_
  have hkeep : (if p key row then f row else row).units = row.units ∧
      (row.state = .released → (if p key row then f row else row).state = .released) := by
    by_cases hp : p key row = true
    · rw [if_pos hp]
      exact hf key row hp
    · rw [if_neg hp]
      exact ⟨rfl, fun hrel => hrel⟩
  generalize (if p key row then f row else row) = row' at hkeep ⊢
  split
  · rename_i hcnt
    simp only [Bool.and_eq_true, decide_eq_true_eq] at hcnt
    obtain ⟨⟨hkind, hstate⟩, howned⟩ := hcnt
    obtain ⟨op, hop⟩ := sound.reservation_owner key.1 key.2 row hrow
    obtain ⟨op', hop', howner⟩ := h.owner key.1 op hop
    have hten : op.tenantKey = tenant := by
      rw [← howner]
      simpa [hop'] using howned
    have hop₀ : s.operations.get? key.1 = some op := hop
    rw [if_pos (by simp [hkind, hop₀, hten, mt hkeep.2 hstate]), hkeep.1]
  · exact Nat.zero_le _

/-! ## Admissions -/

private theorem reserve_eq {reservation u}
    (h : (reserve config.budgetPolicy request reservation).run s = .ok (u, s')) :
    usedUnits s (tenantKey request.context.tenantId) reservation.kind + reservation.units ≤
        unitLimit config.budgetPolicy reservation.kind ∧
      s.reservations.get? (request.context.intentId, reservation.kind) = none ∧
      s' = { s with
        reservations := s.reservations.add (request.context.intentId, reservation.kind)
          ⟨reservation.units, .reserved⟩ } := by
  simp only [reserve, insertReservation, checks, run_insertRow_eq_ok, Bool.and_eq_true,
    decide_eq_true_eq] at h
  obtain ⟨hlimit, -, -, hfree, -, rfl⟩ := h
  refine ⟨?_, hfree, rfl⟩
  have hbound : ∀ quota : Option Nat, ∀ limit, quota.elim limit (min limit) ≤ limit := by
    intro quota limit
    cases quota with
    | none => exact le_rfl
    | some most => exact Nat.min_le_left limit most
  have hpol : (config.budgetPolicy reservation.kind).elim 0 (·.total) -
      (config.budgetPolicy reservation.kind).elim 0 (·.recoveryReserve) =
        unitLimit config.budgetPolicy reservation.kind := by
    unfold unitLimit
    cases config.budgetPolicy reservation.kind <;> rfl
  have hle := hlimit.trans (hbound _ _)
  rw [hpol] at hle
  exact le_trans (by omega) hle

/-- A reservation counts for the owner of its operation only. -/
private theorem usedUnits_add {tenant kind kind' units}
    (hop : s.operations.get? id = some op) (hfree : s.reservations.get? (id, kind) = none) :
    usedUnits { s with reservations := s.reservations.add (id, kind) ⟨units, .reserved⟩ } tenant
        kind' =
      usedUnits s tenant kind' + if kind = kind' ∧ op.tenantKey = tenant then units else 0 := by
  unfold usedUnits
  rw [sum_add_of_free hfree]
  simp [hop]

/-- **Admission**: what was checked before each reservation holds after the last one. -/
private theorem Admits.usedUnits_le (admits : Admits config s request s') (sound : s.ledger.Sound)
    (heff : Effect config s call s')
    (hle : ∀ tenant kind, usedUnits s tenant kind ≤ unitLimit config.budgetPolicy kind)
    (tenant : String) (kind) :
    usedUnits s' tenant kind ≤ unitLimit config.budgetPolicy kind := by
  obtain ⟨t, t', hresv, hops, -, hresv', hrun⟩ := admits.reserved
  obtain ⟨epochs, hadded, -⟩ := admits.acquires
  have hsto : t.operations.get? request.context.intentId =
      some (newOperationRow request epochs) := by
    rw [hops, hadded, get?_add_self admits.fresh]
  have hstart : TakesNone s t := by
    refine ⟨⟨fun _ _ => false, id, hresv.trans (modify_none _), nofun⟩, ?_⟩
    intro id op hop
    rw [hops]
    exact heff.owner_stays hop
  -- the loop reserves kind by kind; each reservation was checked against what the ones before left
  have hloop := Tx.forEach_invariant (P := fun t => t.operations = s'.operations ∧
      t.operations.get? request.context.intentId = some (newOperationRow request epochs) ∧
      ∀ tenant kind, usedUnits t tenant kind ≤ unitLimit config.budgetPolicy kind) ?_
    ⟨hops, hsto, fun tenant kind =>
      (hstart.usedUnits_le sound tenant kind).trans (hle tenant kind)⟩ hrun
  · have heq : usedUnits s' tenant kind = usedUnits t' tenant kind := by
      unfold usedUnits
      rw [hresv', hloop.1]
    rw [heq]
    exact hloop.2.2 tenant kind
  · rintro reservation - t t' ⟨hops, hsto, hle⟩ hreserve
    obtain ⟨hchk, hfree, rfl⟩ := reserve_eq hreserve
    refine ⟨hops, hsto, fun tenant kind => ?_⟩
    rw [usedUnits_add hsto hfree]
    split
    · rename_i hsame
      obtain ⟨rfl, rfl⟩ := hsame
      exact hchk
    · exact hle tenant kind

/-- **Run**: the reservations of an owner stay within the budget. -/
theorem usedUnits_le_of_storeReachable (h : StoreReachable config s) (tenant : String)
    (kind) : usedUnits s tenant kind ≤ unitLimit config.budgetPolicy kind := by
  refine h.induct (P := fun s =>
    ∀ tenant kind, usedUnits s tenant kind ≤ unitLimit config.budgetPolicy kind)
    (fun _ _ => Nat.zero_le _) ?_ tenant kind
  intro s event s' hreach hle hcom tenant kind
  have sound := (ledger_reached hreach).guarded.sound
  have heff := effect_of_commit hcom
  rcases heff.takesNone with hnone | ⟨request, -, hadm⟩
  · exact (hnone.usedUnits_le sound tenant kind).trans (hle tenant kind)
  · exact hadm.usedUnits_le sound heff hle tenant kind

/-- A replay changes nothing. -/
theorem replay_eq {reply} (hop : s.operations.get? request.context.intentId = some op)
    (hcom : Commit config s (.prepareJointOperation request, reply) s') : s' = s := by
  obtain ⟨_, h, -⟩ := run_answering_eq_ok.1 hcom
  simp only [prepareJointOperation, checks, run_validated_eq_ok, hop, run_pure_eq_ok] at h
  exact h.2.2.2

/-! ## Host allocations -/

/-- The operations of the owner agree on one policy. -/
def UsesPolicy (s : Db) (owner : String) (policy : HostCapabilityPolicyV1) : Prop :=
  ∀ id h, s.hostIntents.get? id = some h → h.prepared.target.ownerRef = owner →
    h.prepared.policy = policy

/-- The allocation counts against its owner. -/
def inUse (owner : String) (_ : String) (row : HostAllocationRow) : Bool :=
  row.owner = owner && row.state ≠ .released

/-- The unreleased allocations of the owner, and the bytes they reserve. -/
def heldAllocations (s : Db) (owner : String) : Nat × Nat :=
  (s.hostAllocations.count (inUse owner),
    s.hostAllocations.sum fun id row => if inUse owner id row then row.bytes else 0)

/-- How a call may have changed the allocations. -/
inductive AllocationChange (config : StoreConfig) (s s' : Db) : Prop
  | same (allocations_eq : s'.hostAllocations = s.hostAllocations)
  | released (id : String)
      (allocations_eq : s'.hostAllocations = releasedAllocations s.hostAllocations id)
  | admitted {prepared} (admits : AdmitsHost config s prepared s')

theorem Effect.allocationChange (heff : Effect config s call s') :
    AllocationChange config s s' := by
  cases heff with
  | admitJoint admits =>
    refine .same ?_
    rw [admits.frame]
    rfl
  | admitHost admits => exact .admitted admits
  | failStale => exact .released _ rfl
  | @publishHost _ access h _ result =>
    -- an execution that may have left something behind keeps its allocation
    by_cases hnothing : leavesNothing access h result = true
    · exact .released _ (if_pos hnothing)
    · exact .same (if_neg hnothing)
  | finishCleanup => exact .released _ rfl
  | _ => exact .same rfl

/-- Releasing an allocation makes room. -/
private theorem heldAllocations_released (s : Db) (id owner : String) :
    (releasedAllocations s.hostAllocations id).count (inUse owner) ≤
        s.hostAllocations.count (inUse owner) ∧
      ((releasedAllocations s.hostAllocations id).sum fun id row =>
        if inUse owner id row then row.bytes else 0) ≤
        s.hostAllocations.sum fun id row => if inUse owner id row then row.bytes else 0 := by
  constructor
  · rw [releasedAllocations, count_modify]
    refine count_le_count fun key row _ hcnt => ?_
    split at hcnt
    · simp [inUse] at hcnt
    · exact hcnt
  · rw [releasedAllocations, sum_modify]
    refine sum_le_sum fun key row _ => ?_
    by_cases hid : key = id
    · simp [hid, inUse]
    · simp [hid]

/-- A new allocation counts for its owner. -/
private theorem AdmitsHost.heldAllocations_eq {prepared}
    (admits : AdmitsHost config s prepared s') (owner : String) :
    heldAllocations s' owner =
      if prepared.target.ownerRef = owner then
        ((heldAllocations s owner).1 + 1,
          (heldAllocations s owner).2 + prepared.request.reservedBytes)
      else heldAllocations s owner := by
  unfold heldAllocations
  rw [admits.allocations, count_add_of_free admits.unallocated, sum_add_of_free admits.unallocated]
  by_cases howner : prepared.target.ownerRef = owner <;> simp [inUse, howner]

/-- **Run**: an owner whose operations agree on a policy stays within it. -/
theorem heldAllocations_le_of_storeReachable (h : StoreReachable config s) {owner policy}
    (hpol : UsesPolicy s owner policy) :
    (heldAllocations s owner).1 ≤ policy.maxInflight ∧
      (heldAllocations s owner).2 ≤ policy.maxReservedBytes := by
  obtain ⟨tr, hrun⟩ := h
  refine hrun.invariant (P := fun s => ∀ owner policy, UsesPolicy s owner policy →
    (heldAllocations s owner).1 ≤ policy.maxInflight ∧
      (heldAllocations s owner).2 ≤ policy.maxReservedBytes)
    (fun _ _ _ => ⟨Nat.zero_le _, Nat.zero_le _⟩) ?_ owner policy hpol
  intro s event s' hle hcom owner policy hpol
  have heff := effect_of_commit hcom
  have hbef := hle owner policy fun id h hsto howner => by
    obtain ⟨h', hsto', hmove⟩ := heff.hostIntents.stays hsto
    rw [← hmove.prepared]
    exact hpol id h' hsto' (by rw [hmove.prepared, howner])
  cases heff.allocationChange with
  | same allocations_eq =>
    unfold heldAllocations
    rw [allocations_eq]
    exact hbef
  | released id allocations_eq =>
    have hrel := heldAllocations_released s id owner
    unfold heldAllocations
    rw [allocations_eq]
    exact ⟨hrel.1.trans hbef.1, hrel.2.trans hbef.2⟩
  | @admitted prepared admits =>
    rw [admits.heldAllocations_eq]
    split
    · rename_i howner
      obtain ⟨epochs, _, _, -, hints, -⟩ := admits.admitted
      have hsto : s'.hostIntents.get? prepared.context.intentId =
          some (newHostIntent config.codec prepared (hostAccess config.codec prepared epochs)) := by
        rw [hints, get?_add_self admits.unrecorded]
      have hsame : prepared.policy = policy := hpol _ _ hsto howner
      have hcap := admits.capacity
      rw [howner, hsame] at hcap
      exact ⟨hcap.1, hcap.2⟩
    · exact hbef

/-! ## Budgets -/

/-- **Joint budgets**: the unreleased reservations of an owner are within the budget of their
kind less its recovery reserve, and a replay adds none; the unreleased Host allocations of an
owner whose operations agree on one policy are within that policy. -/
theorem joint_budgets_hold (h : StoreReachable config s) :
    (∀ tenant kind, usedUnits s tenant kind ≤ (config.budgetPolicy kind).elim 0
      fun budget => budget.total - budget.recoveryReserve) ∧
    (∀ request reply s' op, s.operations.get? request.context.intentId = some op →
      Commit config s (.prepareJointOperation request, reply) s' →
      ∀ tenant kind, usedUnits s' tenant kind = usedUnits s tenant kind) ∧
    ∀ owner policy, (∀ id host, s.hostIntents.get? id = some host →
        host.prepared.target.ownerRef = owner → host.prepared.policy = policy) →
      s.hostAllocations.count (fun _ row => row.owner = owner && row.state ≠ .released) ≤
          policy.maxInflight ∧
        (s.hostAllocations.sum fun _ row =>
          if row.owner = owner && row.state ≠ .released then row.bytes else 0) ≤
          policy.maxReservedBytes := by
  refine ⟨usedUnits_le_of_storeReachable h, ?_, fun owner policy =>
    heldAllocations_le_of_storeReachable h⟩
  intro request reply s' op hop hcom tenant kind
  rw [replay_eq hop hcom]

/-- After one session was opened and an execution in its workspace was admitted, one of the ten
units is used, and one of the two allocations that the policy allows. -/
theorem joint_budgets_of_open :
    let s := execAll smallConfig (hostOpenCalls ++ [.prepareHost hostPrepared]) Db.empty
    (usedUnits s (tenantKey none) .session = 1 ∧ usedUnits s (tenantKey none) .session ≤ 10) ∧
      (heldAllocations s (tenantKey none)).1 = 1 ∧ (heldAllocations s (tenantKey none)).1 ≤ 2 := by
  intro s
  have hbudgets := joint_budgets_hold
    (storeReachable_execAll smallConfig (hostOpenCalls ++ [.prepareHost hostPrepared]))
  have hpol : (s.hostIntents.any fun _ host => host.prepared.policy ≠ hostPolicy) = false := by
    decide +kernel
  refine ⟨⟨by decide +kernel, hbudgets.1 (tenantKey none) .session⟩, by decide +kernel, ?_⟩
  refine (hbudgets.2.2 (tenantKey none) hostPolicy fun id host hsto _ => ?_).1
  simpa using Table.any_eq_false_iff.1 hpol id host hsto

end XGovernor.Joint
