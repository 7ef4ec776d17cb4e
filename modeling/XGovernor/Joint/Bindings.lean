import XGovernor.Joint.Operations

/-!
# Bindings of the ledger

A binding is never dropped: its identity is fixed when it is created, and a step moves its
state only along the edges of `BindingChange`.  The last edge is subject to most: a binding is
removed when all its objects are absent and nothing refers to it, and then it stays removed.
-/

namespace XGovernor.Joint.Ledger

open Domain Lib Function

variable {L L' : Ledger} {event : Event}
variable {id : String} {row row' : BindingRow}

/-! ## How a binding moves -/

/-- The same binding at a later time: only its state may differ. -/
structure BindingContinues (row row' : BindingRow) : Prop where
  creation : row'.creationIntent = row.creationIntent
  generation : row'.generation = row.generation
  parent : row'.parentId = row.parentId
  root : row'.rootId = row.rootId
  tenant : row'.tenantKey = row.tenantKey

theorem BindingContinues.refl (row) : BindingContinues row row :=
  ⟨rfl, rfl, rfl, rfl, rfl⟩

/-- An operation is releasing the binding: nothing refers to the binding but the public
reference that the operation ends. -/
structure Releasing (L : Ledger) (bindingId opId publicId : String) (op : OperationRow) :
    Prop where
  stored : L.operations opId = some op
  releases : op.request.context.operation.releases = true
  unfinished : op.stage ≠ .released
  binding : op.admission.binding.bindingId = bindingId
  reference : (ownedReference op.request.context).2 = some publicId
  sole : ∀ key, L.refs key = some bindingId →
    key = ((ownedReference op.request.context).1, publicId)

/-- How a step may move a binding. -/
inductive BindingChange (L L' : Ledger) (id : String) (row row' : BindingRow) : Prop
  | same (state_eq : row'.state = row.state)
  | published (before : row.state = .prepared) (after : row'.state = .active)
  | compensating (before : row.state = .prepared) (after : row'.state = .compensating)
  | releasing (before : row.state = .active) (after : row'.state = .releasing)
      (release : ∃ opId publicId op', L'.Releasing id opId publicId op')
  | removed
      (before : row.state = .prepared ∨ row.state = .compensating ∨ row.state = .releasing)
      (after : row'.state = .removed) (absent : L.AllAbsent id row.generation)
      (unreferenced : ∀ key, L'.refs key ≠ some id) (objects_eq : L'.objects = L.objects)

/-- The binding after a step is the same one, moved along an edge. -/
structure BindingMove (L L' : Ledger) (id : String) (row row' : BindingRow) : Prop where
  continues : BindingContinues row row'
  change : BindingChange L L' id row row'

/-- A binding that a step adds is prepared, and refers to its parent. -/
structure NewBinding (L' : Ledger) (id : String) (row' : BindingRow) : Prop where
  prepared : row'.state = .prepared
  parent : ∀ parent, row'.parentId = some parent → L'.refs (.binding, id) = some parent

/-- The generation in a token that still holds is the one of the binding. -/
private theorem Fenced.generation_eq {request admission}
    (h : L.Fenced request admission) (hrow : L.bindings admission.binding.bindingId = some row) :
    row.generation = admission.generation := by
  obtain ⟨row', hrow', hgen, -⟩ := h.binding
  rw [Option.mem_unique hrow hrow']
  exact hgen

/-- **Bindings move along the edges**: a step never drops a binding or changes its identity, and
moves it from prepared to active, releasing and removed, or from prepared through a compensation to
removed. -/
theorem Step.bindings (h : Step L event L') :
    Table.Evolves L.bindings L'.bindings (NewBinding L') (BindingMove L L') := by
  have hrefl : ∀ id row, BindingMove L L' id row row := fun id row => ⟨.refl row, .same rfl⟩
  have hmove : ∀ {key : String} {old : BindingRow} {state : BindingState},
      L.bindings key = some old → BindingChange L L' key old { old with state } →
      L'.bindings = update L.bindings key (some { old with state }) →
      Table.Evolves L.bindings L'.bindings (NewBinding L') (BindingMove L L') := by
    intro key old state hold hchg hbinds
    rw [hbinds]
    exact .move hrefl hold ⟨⟨rfl, rfl, rfl, rfl, rfl⟩, hchg⟩
  cases h with
  | @admitNew request _ _ _ _ _ _ _ unbound =>
    refine .add hrefl unbound ⟨rfl, fun parent hpar => ?_⟩
    obtain ⟨binding, hbind, rfl⟩ := Option.map_eq_some_iff.1 hpar
    simp [hbind]
  | @admitExisting request epochs _ publicId _ _ valid creates _ bound active _ reference _ sole =>
    by_cases hturn : request.context.operation = .turn
    · exact .of_eq hrefl (if_pos hturn)
    -- an operation on an existing binding that is no turn closes or deletes it
    · have hrels : request.context.operation.releases = true := by
        rcases valid.operation_known.2 with hcreates | hrels | hturn'
        · cases creates.symm.trans hcreates
        · exact hrels
        · exact absurd hturn' hturn
      refine hmove bound (.releasing active rfl ?_) (if_neg hturn)
      exact ⟨_, publicId, newOperationRow request epochs, update_self .., hrels,
        by simp [newOperationRow], rfl, reference, sole⟩
  | publish _ _ _ _ _ bound prepared => exact hmove bound (.published prepared rfl) rfl
  | beginCompensation _ _ bound prepared => exact hmove bound (.compensating prepared rfl) rfl
  | finishCompensation runs _ bound unpublished _ _ unreferenced absent =>
    refine hmove bound (.removed ?_ rfl ?_ ?_ rfl) rfl
    · exact unpublished.imp_right .inl
    · rw [runs.fenced.generation_eq bound]
      exact absent
    · intro key hkey
      simp only [dropped] at hkey
      split at hkey
      · exact absurd hkey (by simp)
      · exact unreferenced key hkey
  | release runs _ _ _ _ bound releasing absent _ sole =>
    refine hmove bound (.removed (.inr (.inr releasing)) rfl ?_ ?_ rfl) rfl
    · rw [runs.fenced.generation_eq bound]
      exact absent
    · intro key hkey
      simp only [dropped] at hkey
      split at hkey
      · exact absurd hkey (by simp)
      · rename_i hmem
        exact hmem (by simp [sole key hkey])
  | _ => exact .refl hrefl

/-- A binding that was removed stays so. -/
theorem BindingChange.removed_stays (h : BindingChange L L' id row row')
    (hrem : row.state = .removed) : row'.state = .removed := by
  cases h with
  | same state_eq => exact state_eq.trans hrem
  | published before | compensating before | releasing before => simp [hrem] at before
  | removed _ after => exact after

end XGovernor.Joint.Ledger
