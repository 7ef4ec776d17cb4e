import XGovernor.Joint.Coherence

/-!
# References between bindings

A reference keeps its target: every reference points to a binding that is active or is being
released, and a binding that is being released has no reference but the public one that the
release ends.  A binding refers to its parent until it is removed, so its parent is active.
-/

namespace XGovernor.Joint.Ledger

open Domain Lib Function

variable {L L' : Ledger} {event : Event} {refs : RefKind × String → Option String}
  {key : RefKind × String} {id parent : String} {row' : BindingRow}

/-- **References** keep their targets. -/
structure Referenced (L : Ledger) : Prop where
  target : ∀ key id, L.refs key = some id →
    ∃ row, L.bindings id = some row ∧ (row.state = .active ∨ row.state = .releasing)
  release : ∀ id row, L.bindings id = some row → row.state = .releasing →
    ∃ opId publicId op, L.Releasing id opId publicId op
  parent : ∀ id row parent, L.bindings id = some row → row.state ≠ .removed →
    row.parentId = some parent → L.refs (.binding, id) = some parent

theorem Referenced.empty : Referenced Ledger.empty where
  target := by simp [Ledger.empty]
  release := by simp [Ledger.empty]
  parent := by simp [Ledger.empty]

/-! ## How references change -/

private theorem dropped_eq_some {keys : List (RefKind × String)} :
    dropped refs keys key = some id ↔ key ∉ keys ∧ refs key = some id := by
  simp [dropped]

private theorem ref_update {key' id'} (h : update refs key' (some id') key = some id) :
    refs key = some id ∨ id = id' := by
  by_cases hkey : key = key'
  · subst hkey
    rw [update_self, Option.some.injEq] at h
    exact .inr h.symm
  · exact .inl ((update_of_ne hkey _ _).symm.trans h)

/-- **New references**: a reference that a step adds points to an active binding. -/
theorem Step.ref_change (h : Step L event L') (hkey : L'.refs key = some id) :
    L.refs key = some id ∨ ∃ row', L'.bindings id = some row' ∧ row'.state = .active := by
  cases h with
  | @admitNew request _ _ _ _ _ _ _ unbound parent_active =>
    cases hpar : request.parentBinding with
    | none => exact .inl (by simpa [hpar] using hkey)
    | some parent =>
      obtain ⟨⟨row, hrow, hact⟩, -⟩ := parent_active parent hpar
      simp only [hpar, Option.elim_some] at hkey
      refine (ref_update hkey).imp_right ?_
      rintro rfl
      have hne : parent.bindingId ≠ request.binding.bindingId := by
        intro heq
        exact absurd (unbound.symm.trans (heq ▸ hrow)) (by simp)
      exact ⟨row, (update_of_ne hne _ _).trans hrow, hact⟩
  | publish =>
    refine (ref_update hkey).imp_right ?_
    rintro rfl
    exact ⟨_, update_self .., rfl⟩
  | admitHost _ _ _ _ _ _ _ root_bound root_active =>
    refine (ref_update hkey).imp_right ?_
    rintro rfl
    exact ⟨_, root_bound, root_active⟩
  | finishCompensation | release | noteHost | settleHost =>
    exact .inl (dropped_eq_some.1 hkey).2
  | _ => exact .inl hkey

/-- The reference of a binding to its parent stays until the binding is removed. -/
theorem Step.parentRef_stays (h : Step L event L')
    (href : L.refs (.binding, id) = some parent) (hrow' : L'.bindings id = some row')
    (hstate : row'.state ≠ .removed) : L'.refs (.binding, id) = some parent := by
  have hupd : ∀ {key : RefKind × String} {new : String}, key.1 ≠ .binding →
      update L.refs key (some new) (.binding, id) = some parent := by
    intro key new hkind
    rw [update_of_ne, href]
    rintro rfl
    exact hkind rfl
  have hdropped : ∀ {keys : List (RefKind × String)}, (.binding, id) ∉ keys →
      dropped L.refs keys (.binding, id) = some parent :=
    fun hmem => dropped_eq_some.2 ⟨hmem, href⟩
  cases h with
  | @admitNew request _ _ _ _ _ _ _ _ parent_active =>
    cases hpar : request.parentBinding with
    | none => simpa [hpar] using href
    | some new =>
      -- the new binding has no reference yet
      have hne : (RefKind.binding, id) ≠ (RefKind.binding, request.binding.bindingId) := by
        intro heq
        have hfree := (parent_active new hpar).2
        rw [← heq, href] at hfree
        exact absurd hfree (by simp)
      simp [update_of_ne hne, href]
  | @publish _ op =>
    refine hupd ?_
    unfold createdIdentity
    split <;> simp
  | admitHost =>
    dsimp only
    exact hupd (by simp)
  | finishCompensation =>
    refine hdropped fun hmem => ?_
    obtain rfl : id = _ := by simpa using hmem
    dsimp only at hrow'
    rw [update_self, Option.some.injEq] at hrow'
    exact hstate (by rw [← hrow'])
  | @release _ op _ kind _ _ _ identity =>
    refine hdropped fun hmem => ?_
    have hkind : kind ≠ .binding := by
      rintro rfl
      simp [releasedIdentity] at identity
    obtain rfl : id = _ := by simpa [hkind.symm] using hmem
    dsimp only at hrow'
    rw [update_self, Option.some.injEq] at hrow'
    exact hstate (by rw [← hrow'])
  | noteHost _ keys _ _ _ _ _ keys_hold | settleHost _ keys _ _ _ _ _ _ _ _ _ _ keys_hold =>
    refine hdropped fun hmem => ?_
    exact absurd (keys_hold _ hmem) (by simp)
  | _ => exact href

/-! ## References are kept -/

private theorem target_step (href : L.Referenced) (h : Step L event L') {key}
    (hkey : L'.refs key = some id) :
    ∃ row', L'.bindings id = some row' ∧ (row'.state = .active ∨ row'.state = .releasing) := by
  rcases h.ref_change hkey with hold | ⟨row', hrow', hact⟩
  · obtain ⟨row, hrow, hstate⟩ := href.target key id hold
    obtain ⟨row', hrow', hmove⟩ := h.bindings.stays hrow
    refine ⟨row', hrow', ?_⟩
    cases hmove.change with
    | same state_eq =>
      rw [state_eq]
      exact hstate
    | published before | compensating before => simp [before] at hstate
    | releasing _ after => exact .inr after
    | removed _ _ _ unreferenced => exact absurd hkey (unreferenced key)
  · exact ⟨row', hrow', .inl hact⟩

/-- A release that has begun goes on until the binding is removed. -/
private theorem Releasing.step (coherent : L.Coherent) (sound : L.Sound) (h : Step L event L')
    {opId publicId op}
    (hreleasing : L.Releasing id opId publicId op) (hrow' : L'.bindings id = some row')
    (hstate : row'.state = .releasing) : ∃ op', L'.Releasing id opId publicId op' := by
  obtain ⟨op', hop', hcont, -⟩ := (h.operations sound).stays hreleasing.stored
  refine ⟨op', hop', ?_, ?_, ?_, ?_, ?_⟩
  · rw [hcont.request]
    exact hreleasing.releases
  · intro hreleased
    cases h.stage_change coherent sound hreleasing.stored hop' with
    | same stage_eq => exact hreleasing.unfinished (stage_eq ▸ hreleased)
    | moved _ after => simp [hreleased, Stage.isFinal] at after
    | compensated _ after => simp [hreleased] at after
    | released _ _ _ removed =>
      obtain ⟨row'', hrow'', hrem⟩ := removed
      rw [hreleasing.binding, hrow', Option.some.injEq] at hrow''
      exact absurd (hstate.symm.trans (hrow'' ▸ hrem)) (by simp)
  · rw [hcont.binding]
    exact hreleasing.binding
  · rw [hcont.request]
    exact hreleasing.reference
  · intro key hkey
    rw [hcont.request]
    rcases h.ref_change hkey with hold | ⟨row'', hrow'', hact⟩
    · exact hreleasing.sole key hold
    · rw [hrow', Option.some.injEq] at hrow''
      exact absurd (hstate.symm.trans (hrow'' ▸ hact)) (by simp)

private theorem release_step (href : L.Referenced) (coherent : L.Coherent) (sound : L.Sound)
    (h : Step L event L') (hrow' : L'.bindings id = some row')
    (hstate : row'.state = .releasing) :
    ∃ opId publicId op', L'.Releasing id opId publicId op' := by
  rcases h.bindings.origin hrow' with ⟨-, hnew⟩ | ⟨row, hrow, hmove⟩
  · simp [hnew.prepared] at hstate
  · cases hmove.change with
    | same state_eq =>
      obtain ⟨opId, publicId, op, hreleasing⟩ := href.release id row hrow (state_eq ▸ hstate)
      exact ⟨opId, publicId, hreleasing.step coherent sound h hrow' hstate⟩
    | releasing _ _ release => exact release
    | published _ after | compensating _ after | removed _ after => simp [after] at hstate

private theorem parent_step (href : L.Referenced) (h : Step L event L')
    (hrow' : L'.bindings id = some row')
    (hstate : row'.state ≠ .removed) (hpar : row'.parentId = some parent) :
    L'.refs (.binding, id) = some parent := by
  rcases h.bindings.origin hrow' with ⟨-, hnew⟩ | ⟨row, hrow, hmove⟩
  · exact hnew.parent parent hpar
  · refine h.parentRef_stays (href.parent id row parent hrow ?_ ?_) hrow' hstate
    · exact fun hrem => hstate (hmove.change.removed_stays hrem)
    · rw [← hmove.continues.parent]
      exact hpar

/-- References are kept by every step. -/
theorem Referenced.step (href : L.Referenced) (coherent : L.Coherent) (sound : L.Sound)
    (h : Step L event L') : L'.Referenced where
  target := fun _ _ => target_step href h
  release := fun _ _ => release_step href coherent sound h
  parent := fun _ _ _ => parent_step href h

theorem Reached.referenced (h : L.Reached) : L.Referenced := by
  have hall : L.Sound ∧ L.Coherent ∧ L.Referenced := by
    refine Reachable.invariant (P := fun L : Ledger => L.Sound ∧ L.Coherent ∧ L.Referenced)
      ⟨.empty, .empty, .empty⟩ ?_ h
    rintro L event L' ⟨sound, coherent, href⟩ hstep
    exact ⟨sound.step hstep, coherent.step sound hstep, href.step coherent sound hstep⟩
  exact hall.2.2

/-- A binding that is not removed has an active parent, if it has one. -/
theorem Referenced.parent_active (href : L.Referenced) {row}
    (hrow : L.bindings id = some row) (hstate : row.state ≠ .removed)
    (hpar : row.parentId = some parent) :
    ∃ row', L.bindings parent = some row' ∧ row'.state = .active := by
  have hkey := href.parent id row parent hrow hstate hpar
  obtain ⟨row', hrow', hact | hreleasing⟩ := href.target _ parent hkey
  · exact ⟨row', hrow', hact⟩
  · -- a release would be of a session or a checkpoint
    obtain ⟨_, _, op, hrel⟩ := href.release parent row' hrow' hreleasing
    have hkind := congrArg Prod.fst (hrel.sole _ hkey)
    unfold ownedReference at hkind
    split at hkind <;> simp at hkind

end XGovernor.Joint.Ledger

namespace XGovernor.Joint

open Domain Lib

/-! ## References of the store -/

/-- **References never dangle**: in every database that committed transactions lead to, every
reference points to a binding that is active or releasing, a releasing binding is referenced
only by the public reference that is being released, a removed binding by none, and a binding
that is not removed has an active parent if it was created with one. -/
theorem references_never_dangle {config : StoreConfig} {s : Db} (h : StoreReachable config s) :
    (∀ key id, s.refs.get? key = some id →
      ∃ row, s.bindings.get? id = some row ∧ (row.state = .active ∨ row.state = .releasing)) ∧
    (∀ id row, s.bindings.get? id = some row → row.state = .releasing →
      ∃ opId publicId op, s.operations.get? opId = some op ∧
        op.request.context.operation.releases = true ∧ op.stage ≠ .released ∧
        op.admission.binding.bindingId = id ∧
        (ownedReference op.request.context).2 = some publicId ∧
        ∀ key, s.refs.get? key = some id →
          key = ((ownedReference op.request.context).1, publicId)) ∧
    (∀ id row, s.bindings.get? id = some row → row.state = .removed →
      ∀ key, s.refs.get? key ≠ some id) ∧
    (∀ id row parent, s.bindings.get? id = some row → row.state ≠ .removed →
      row.parentId = some parent →
      ∃ row', s.bindings.get? parent = some row' ∧ row'.state = .active) := by
  have href := (ledger_reached h).referenced
  refine ⟨href.target, fun id row hrow hstate => ?_, fun id row hrow hstate key hkey => ?_,
    fun id row parent hrow hstate hpar => href.parent_active hrow hstate hpar⟩
  · obtain ⟨opId, publicId, op, hrel⟩ := href.release id row hrow hstate
    exact ⟨opId, publicId, op, hrel.stored, hrel.releases, hrel.unfinished,
      hrel.binding, hrel.reference, hrel.sole⟩
  · obtain ⟨row', hrow', hlive⟩ := href.target key id hkey
    rw [Option.mem_unique hrow' hrow, hstate] at hlive
    simp at hlive

/-- A session that is being closed is still referenced by its public identity, and by nothing
else. -/
theorem references_of_closing :
    let s := execAll smallConfig (openCalls ++ [.prepareJointOperation closeRequest]) Db.empty
    s.refs.get? (.session, "session") = some "binding" ∧
    (s.bindings.get? "binding").any (fun row => row.state = .releasing) = true ∧
    ∃ opId publicId op, s.operations.get? opId = some op ∧
      op.request.context.operation.releases = true ∧
      ∀ key, s.refs.get? key = some "binding" →
        key = ((ownedReference op.request.context).1, publicId) := by
  intro s
  have href : s.refs.get? (.session, "session") = some "binding" := by decide +kernel
  have hreleasing : (s.bindings.get? "binding").any (fun row => row.state = .releasing) = true := by
    decide +kernel
  obtain ⟨row, hrow, hstate⟩ := (Option.any_eq_true _ _).1 hreleasing
  obtain ⟨opId, publicId, op, hop, hrels, -, -, -, hsole⟩ :=
    (references_never_dangle (storeReachable_execAll smallConfig _)).2.1 "binding" row hrow
      (of_decide_eq_true hstate)
  exact ⟨href, hreleasing, opId, publicId, op, hop, hrels, hsole⟩

end XGovernor.Joint
