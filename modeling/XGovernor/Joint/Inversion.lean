import XGovernor.Joint.Ledger

/-!
# What committed transactions did

One lemma for each shared part of the transactions: if it committed, these checks passed
and this is the store it left.  The lemmas are equivalences, so that rewriting with them
turns a committed transaction into its checks and its final store.
-/

namespace XGovernor.Joint

open Domain Lib Table Tx

variable {s s' : Db} {u : Unit}
variable {result : Except SessionDomainError Unit} {admission : JointAdmission}
  {request : JointPrepareRequest} {id : String}

/-! ## Reads and checks -/

@[simp] theorem run_queryRow_eq_ok {K V : Type} [DecidableEq K] {table : Db → Table K V}
    {key : K} {row : V} :
    (queryRow table key).run s = .ok (row, s') ↔ (table s).get? key = some row ∧ s' = s := by
  simp [queryRow, and_comm]

@[simp] theorem run_checked_eq_ok :
    (checked result).run s = .ok (u, s') ↔ result = .ok () ∧ s' = s := by
  cases result <;> simp [checked]

@[simp] theorem run_validatedAs_eq_ok {text : SessionDomainError → String} :
    (validatedAs text result).run s = .ok (u, s') ↔ result = .ok () ∧ s' = s := by
  cases result <;> simp [validatedAs]

@[simp] theorem run_validated_eq_ok :
    (validated result).run s = .ok (u, s') ↔ result = .ok () ∧ s' = s := by
  simp [validated]

@[simp] theorem run_operation_eq_ok {op : OperationRow} :
    (operation admission).run s = .ok (op, s') ↔
      s.operations.get? admission.intentId = some op ∧ op.admission = admission ∧ s' = s := by
  simp only [operation, checks, run_queryRow_eq_ok, run_pure_eq_ok, decide_eq_true_eq]
  constructor
  · rintro ⟨op', hop, htoken, rfl, rfl⟩
    exact ⟨hop, htoken, rfl⟩
  · rintro ⟨hop, htoken, rfl⟩
    exact ⟨op, hop, htoken, rfl, rfl⟩

@[simp] theorem run_refuseHost_eq_ok :
    (refuseHost request).run s = .ok (u, s') ↔
      request.context.operation.isHost = false ∧ s' = s := by
  simp [refuseHost]

theorem run_checkSource_eq_ok :
    (checkSource request admission).run s = .ok (u, s') ↔
      (∀ epoch, admission.sourceEpoch = some epoch →
        ∃ fence, s.fences.get? (.source, request.sourceId) = some fence ∧
          fence.epoch = epoch ∧ fence.holder = some admission.intentId) ∧ s' = s := by
  cases hepoch : admission.sourceEpoch with
  | none => simp [checkSource, hepoch]
  | some epoch =>
    simp only [checkSource, hepoch, run_forSome_eq_ok, checks, run_queryRow_eq_ok,
      Bool.and_eq_true, decide_eq_true_eq, Option.some.injEq, reduceCtorEq, false_and, or_false,
      exists_eq_left', forall_eq']
    exact ⟨fun ⟨fence, h, he, hh, hs⟩ => ⟨⟨fence, h, he, hh⟩, hs⟩,
      fun ⟨⟨fence, h, he, hh⟩, hs⟩ => ⟨fence, h, he, hh, hs⟩⟩

@[simp] theorem run_checkFences_eq_ok :
    (checkFences request admission).run s = .ok (u, s') ↔
      s.ledger.Fenced request admission ∧ s' = s := by
  simp only [checkFences, checks, run_queryRow_eq_ok, run_checkSource_eq_ok, Bool.and_eq_true,
    decide_eq_true_eq]
  have hholder : ∀ fence : FenceRow,
      (if request.exclusiveRoot = true then decide (fence.holder = some admission.intentId)
        else fence.holder.isNone) = true ↔
      fence.holder = if request.exclusiveRoot then some admission.intentId else none := by
    intro fence
    split <;> simp
  simp only [hholder]
  constructor
  · rintro ⟨root, hroot, hepoch, hfence, hsrc, binding, hbind, hgen, hstate, rfl⟩
    exact ⟨⟨⟨root, hroot, hepoch, hfence⟩, hsrc, ⟨binding, hbind, hgen, hstate⟩⟩, rfl⟩
  · rintro ⟨⟨⟨root, hroot, hepoch, hfence⟩, hsrc, binding, hbind, hgen, hstate⟩, rfl⟩
    exact ⟨root, hroot, hepoch, hfence, hsrc, binding, hbind, hgen, hstate, rfl⟩

/-! ## Statements

The effect of a statement on the ledger; one that writes no table of it leaves it as it is. -/

theorem ledger_updateObjects {p f} (h : (updateObjects p f).run s = .ok (u, s')) :
    s'.ledger = { s.ledger with objects := Table.modified s.ledger.objects p f } := by
  rw [Tx.run_modify_eq_ok.1 h]
  simp only [Db.ledger, get?_modify_eq]

theorem ledger_updateFences {p f} (h : (updateFences p f).run s = .ok (u, s')) :
    s'.ledger = { s.ledger with fences := Table.modified s.ledger.fences p f } := by
  rw [Tx.run_modify_eq_ok.1 h]
  simp only [Db.ledger, get?_modify_eq]

theorem ledger_updateTurnCancels {p f} (h : (updateTurnCancels p f).run s = .ok (u, s')) :
    s'.ledger = { s.ledger with cancels := Table.modified s.ledger.cancels p f } := by
  rw [Tx.run_modify_eq_ok.1 h]
  simp only [Db.ledger, get?_modify_eq]

variable (refs : RefKind × String → Option String)

/-- A delete of one reference, which may also name its target. -/
theorem erased_eq_dropped (key : RefKind × String)
    (p : String → Bool) (hp : ∀ target, refs key = some target → p target = true) :
    Table.erased refs (fun k target => k = key && p target) = Ledger.dropped refs [key] := by
  funext k
  by_cases hk : k = key
  · subst hk
    cases hrow : refs k with
    | none => simp [Table.erased, Ledger.dropped, hrow]
    | some target => simp [Table.erased, Ledger.dropped, hrow, hp target hrow]
  · cases hrow : refs k <;> simp [Table.erased, Ledger.dropped, hk, hrow]

theorem erased_key (key : RefKind × String) :
    Table.erased refs (fun k _ => k = key) = Ledger.dropped refs [key] := by
  simpa using erased_eq_dropped refs key (fun _ => true) fun _ _ => rfl

theorem dropped_dropped (key key' : RefKind × String) :
    Ledger.dropped (Ledger.dropped refs [key]) [key'] = Ledger.dropped refs [key, key'] := by
  funext k
  by_cases hk : k = key <;> by_cases hk' : k = key' <;> simp [Ledger.dropped, hk, hk']

theorem ledger_addObject {key row} (h : (addObject key row).run s = .ok (u, s')) :
    s'.ledger = { s.ledger with objects := Table.extended s.ledger.objects key row } := by
  rw [Tx.run_modify_eq_ok.1 h]
  simp only [Db.ledger, get?_add_eq]

theorem ledger_addFence {key row} (h : (addFence key row).run s = .ok (u, s')) :
    s'.ledger = { s.ledger with fences := Table.extended s.ledger.fences key row } := by
  rw [Tx.run_modify_eq_ok.1 h]
  simp only [Db.ledger, get?_add_eq]

theorem ledger_addTurnCancel {key row} (h : (addTurnCancel key row).run s = .ok (u, s')) :
    s'.ledger = { s.ledger with cancels := Table.extended s.ledger.cancels key row } := by
  rw [Tx.run_modify_eq_ok.1 h]
  simp only [Db.ledger, get?_add_eq]

theorem ledger_insertStep {native} (h : (insertStep id native).run s = .ok (u, s')) :
    s.ledger.steps (id, native.step) = none ∧
      s'.ledger = { s.ledger with
        steps := Function.update s.ledger.steps (id, native.step) (some ⟨native, none⟩) } := by
  obtain ⟨hfree, -, rfl⟩ := run_insertRow_eq_ok.1 h
  refine ⟨hfree, ?_⟩
  simp only [Db.ledger, get?_add_eq, extended_key hfree]

end XGovernor.Joint
