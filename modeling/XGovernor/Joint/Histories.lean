import XGovernor.Joint.Suspension
import XGovernor.Joint.Turns

/-!
# Histories of the store

Calls of any number of callers are made one after the other, and some of them are rolled back.
What an earlier call has stored is still there after all later ones: it has moved along its edges,
and it is about the same thing.
-/

namespace XGovernor.Joint

open Domain Lib Ledger

variable (config : StoreConfig)

/-- **Refinement**: whatever calls are made, those that are committed are a run of the ledger. -/
theorem store_refines_ledger (calls : List Call) :
    Run Step Ledger.empty
      ((traceAll config calls Db.empty).map fun e => (e.1.ledger, eventOf e.1 e.2))
      (execAll config calls Db.empty).ledger :=
  run_refines (run_execAll config calls Db.empty)

/-- **Frames**: a call, committed or rolled back, leaves the tables outside its footprint alone. -/
theorem call_writes_its_footprint (call : Call) (s : Db) :
    execAll config [call] s = call.footprint.copy (execAll config [call] s) s := by
  unfold execAll execAll
  split
  · rename_i reply s' hrun
    exact (exec_within config call).run_eq s reply s' hrun
  · exact (call.footprint.copy_self s).symm

/-! ## From one call to all later ones -/

/-- What some calls have stored is not dropped by any later calls, and has moved as `Move` says, if
every single commit does so. -/
private theorem kept_of_commits {config} {K V : Type} {calls k v}
    (entries : Db → K → Option V) (Move : V → V → Prop) (later) (hv : entries (execAll config calls Db.empty) k = some v)
    (hrefl : ∀ v, Move v v) (htrans : ∀ {u v w}, Move u v → Move v w → Move u w)
    (hcommit : ∀ {s event s'}, StoreReachable config s → Commit config s event s' →
      ∀ {k v}, entries s k = some v → ∃ v', entries s' k = some v' ∧ Move v v') :
    ∃ v', entries (execAll config later (execAll config calls Db.empty)) k = some v' ∧
      Move v v' := by
  refine (storeReachable_execAll config calls).run_invariant (run_execAll config later _)
    (P := fun t => ∃ v', entries t k = some v' ∧ Move v v') ⟨v, hv, hrefl v⟩ ?_
  rintro s event s' hreach ⟨u, hu, hvu⟩ hcom
  obtain ⟨w, hw, huw⟩ := hcommit hreach hcom hu
  exact ⟨w, hw, htrans hvu huw⟩

variable (calls later : List Call)

/-! ## Bindings, operations and fences -/

/-- The states a binding may still come to. -/
def laterStates : BindingState → List BindingState
  | .prepared => [.prepared, .compensating, .active, .releasing, .removed]
  | .active => [.active, .releasing, .removed]
  | .compensating => [.compensating, .removed]
  | .releasing => [.releasing, .removed]
  | .removed => [.removed]

private theorem self_mem_laterStates (state) : state ∈ laterStates state := by
  cases state <;> simp [laterStates]

private theorem laterStates_trans {a b c} (hab : b ∈ laterStates a) (hbc : c ∈ laterStates b) :
    c ∈ laterStates a := by
  cases a <;> cases b <;> grind [laterStates]

private theorem mem_laterStates {L L' id row row'} (h : BindingChange L L' id row row') :
    row'.state ∈ laterStates row.state := by
  cases h with
  | same heq => rw [heq]; exact self_mem_laterStates row.state
  | published before after | compensating before after | releasing before after =>
    simp [before, after, laterStates]
  | removed before after =>
    rcases before with before | before | before <;> simp [before, after, laterStates]

/-- **Bindings**: no call drops a binding, gives it to another operation, generation, parent, Root
or tenant, or moves it back to a state that it has left. -/
theorem bindings_only_advance {id row}
    (hrow : (execAll config calls Db.empty).bindings.get? id = some row) :
    ∃ row', (execAll config later (execAll config calls Db.empty)).bindings.get? id = some row' ∧
      BindingContinues row row' ∧ row'.state ∈ laterStates row.state := by
  refine kept_of_commits (fun s => s.bindings.get?)
    (fun row row' => BindingContinues row row' ∧ row'.state ∈ laterStates row.state) later hrow
    (fun row => ⟨.refl row, self_mem_laterStates _⟩) ?_ ?_
  · rintro u v w ⟨huv, hstate⟩ ⟨hvw, hstate'⟩
    exact ⟨⟨hvw.creation.trans huv.creation, hvw.generation.trans huv.generation,
      hvw.parent.trans huv.parent, hvw.root.trans huv.root, hvw.tenant.trans huv.tenant⟩,
      laterStates_trans hstate hstate'⟩
  · intro s event s' _ hcom k row hrow
    obtain ⟨row', hrow', hmove⟩ := (commit_refines hcom).bindings.stays hrow
    exact ⟨row', hrow', hmove.continues, mem_laterStates hmove.change⟩

/-- The binding of a new session becomes active. -/
theorem binding_of_open_advances : ∃ row row',
    (execAll smallConfig (openCalls.take 1) Db.empty).bindings.get? "binding" = some row ∧
    (execAll smallConfig openCalls Db.empty).bindings.get? "binding" = some row' ∧
    row.state = .prepared ∧ row'.state = .active ∧ BindingContinues row row' := by
  have hprep : ((execAll smallConfig (openCalls.take 1) Db.empty).bindings.get? "binding").any
      (fun row => row.state = .prepared) = true := by decide +kernel
  have hact : ((execAll smallConfig openCalls Db.empty).bindings.get? "binding").any
      (fun row => row.state = .active) = true := by decide +kernel
  obtain ⟨row, hrow, hstate⟩ := (Option.any_eq_true _ _).1 hprep
  obtain ⟨row', hrow', hstate'⟩ := (Option.any_eq_true _ _).1 hact
  obtain ⟨_, hlast, hcont, -⟩ :=
    bindings_only_advance smallConfig (openCalls.take 1) (openCalls.drop 1) hrow
  cases hrow'.symm.trans hlast
  exact ⟨row, row', hrow, hrow', of_decide_eq_true hstate, of_decide_eq_true hstate', hcont⟩

private theorem operations_continue {id op}
    (hop : (execAll config calls Db.empty).operations.get? id = some op) : ∃ op',
      (execAll config later (execAll config calls Db.empty)).operations.get? id = some op' ∧
        Continues op op' := by
  refine kept_of_commits (fun s => s.operations.get?) Continues later hop .refl .trans ?_
  intro s event s' hreach hcom k op hop
  have hevolves := (commit_refines hcom).operations (ledger_reached hreach).sound
  obtain ⟨op', hop', hcont, -⟩ := hevolves.stays hop
  exact ⟨op', hop', hcont⟩

/-- **Fences**: a fence stays with its Root, and its epoch never goes back. -/
theorem fence_epochs_monotone {key fence}
    (hfence : (execAll config calls Db.empty).fences.get? key = some fence) : ∃ fence',
      (execAll config later (execAll config calls Db.empty)).fences.get? key = some fence' ∧
        fence'.rootId = fence.rootId ∧ fence.epoch ≤ fence'.epoch := by
  refine kept_of_commits (fun s => s.fences.get?)
    (fun fence fence' => fence'.rootId = fence.rootId ∧ fence.epoch ≤ fence'.epoch) later hfence
    (fun _ => ⟨rfl, Nat.le_refl _⟩)
    (fun huv hvw => ⟨hvw.1.trans huv.1, huv.2.trans hvw.2⟩) ?_
  intro s event s' _ hcom k fence hfence
  exact (commit_refines hcom).fence_stays hfence

/-- The fence of a session whose target is registered, when an operation on the session comes. -/
theorem fence_of_session_monotone : ∃ fence fence',
    (execAll smallConfig hostOpenCalls Db.empty).fences.get? (.source, "session") = some fence ∧
    (execAll smallConfig hostCalls Db.empty).fences.get? (.source, "session") = some fence' ∧
    fence'.rootId = fence.rootId ∧ fence.epoch ≤ fence'.epoch := by
  have hsome : ((execAll smallConfig hostOpenCalls Db.empty).fences.get?
      (.source, "session")).isSome = true := by decide +kernel
  obtain ⟨fence, hfence⟩ := Option.isSome_iff_exists.1 hsome
  obtain ⟨fence', hfence', hmono⟩ :=
    fence_epochs_monotone smallConfig hostOpenCalls (hostCalls.drop hostOpenCalls.length) hfence
  exact ⟨fence, fence', hfence, hfence', hmono⟩

/-! ## Host operations -/

/-- The same Host operation at a later time: its token may have been renewed, never put back. -/
structure JournalContinues (h h' : HostIntentV1) : Prop where
  prepared : h'.prepared = h.prepared
  epoch : ∀ e ∈ h.access.admission.sourceEpoch, ∃ e' ∈ h'.access.admission.sourceEpoch, e ≤ e'

/-- **Tokens**: the journal of a Host operation stays about the same preparation, and the epoch of
the token that it accepts never goes back. -/
theorem host_tokens_never_go_back {id h}
    (hsto : (execAll config calls Db.empty).hostIntents.get? id = some h) :
    ∃ h', (execAll config later (execAll config calls Db.empty)).hostIntents.get? id = some h' ∧
      JournalContinues h h' := by
  refine kept_of_commits (fun s => s.hostIntents.get?) JournalContinues later hsto
    (fun _ => ⟨rfl, fun e he => ⟨e, he, Nat.le_refl e⟩⟩) ?_ ?_
  · intro u v w huv hvw
    refine ⟨hvw.prepared.trans huv.prepared, fun e he => ?_⟩
    obtain ⟨e', he', hle⟩ := huv.epoch e he
    obtain ⟨e'', he'', hle'⟩ := hvw.epoch e' he'
    exact ⟨e'', he'', hle.trans hle'⟩
  · intro s event s' hreach hcom id h hsto
    obtain ⟨h', hsto', hmove⟩ := (effect_of_commit hcom).hostIntents.stays hsto
    refine ⟨h', hsto', hmove.prepared, fun e he => ?_⟩
    rcases hmove.access with hacc | ⟨source, hsrc, htoken, -⟩
    · exact ⟨e, by rwa [hacc], Nat.le_refl e⟩
    · -- the epoch of the token is at most the one of the fence that was taken again
      obtain ⟨fence, epoch, hfence, hepoch, hle⟩ :=
        (hostsCoherent_of_storeReachable hreach).epochs id h hsto
      cases hsrc.symm.trans hfence
      cases hepoch.symm.trans he
      exact ⟨source.epoch + 1, htoken, by omega⟩

/-- The execution keeps its token when it is sent and observed. -/
theorem token_of_execution_stays : ∃ h h',
    (execAll smallConfig (hostCalls.take 6) Db.empty).hostIntents.get? "exec" = some h ∧
    (execAll smallConfig hostCalls Db.empty).hostIntents.get? "exec" = some h' ∧
    JournalContinues h h' := by
  have hsome : ((execAll smallConfig (hostCalls.take 6) Db.empty).hostIntents.get?
      "exec").isSome = true := by decide +kernel
  obtain ⟨h, hsto⟩ := Option.isSome_iff_exists.1 hsome
  obtain ⟨h', hsto', hcont⟩ :=
    host_tokens_never_go_back smallConfig (hostCalls.take 6) (hostCalls.drop 6) hsto
  exact ⟨h, h', hsto, hsto', hcont⟩

/-- **Holders**: a fence is only held by a stored operation that is no cleanup, and no two Host
operations delegate to one cleanup. -/
theorem holders_known (calls : List Call) :
    HoldersKnown (execAll config calls Db.empty) ∧
      ChildrenDistinct (execAll config calls Db.empty) := by
  have hosts := hostsCoherent_of_storeReachable (storeReachable_execAll config calls)
  exact ⟨hosts.holders, hosts.children⟩

/-! ## Turns -/

/-- **Turns**: a turn stays the one of the operation and the client request that it began with. -/
theorem turns_keep_identity {key row}
    (hrow : (execAll config calls Db.empty).turns.get? key = some row) :
    ∃ row', (execAll config later (execAll config calls Db.empty)).turns.get? key = some row' ∧
      row'.intentId = row.intentId ∧ row'.clientRequestId = row.clientRequestId := by
  refine kept_of_commits (fun s => s.turns.get?)
    (fun row row' => row'.intentId = row.intentId ∧ row'.clientRequestId = row.clientRequestId)
    later hrow (fun _ => ⟨rfl, rfl⟩)
    (fun huv hvw => ⟨hvw.1.trans huv.1, hvw.2.trans huv.2⟩) ?_
  intro s event s' _ hcom key row hrow
  obtain ⟨row', hrow', hchange⟩ := (effect_of_commit hcom).turns.stays hrow
  exact ⟨row', hrow', hchange.identity⟩

/-- The turn of a message is the same one after the message was claimed for sending. -/
theorem turn_of_message_keeps_identity :
    let s := execAll smallConfig (openCalls ++ [.prepareJointOperation turnRequest]) Db.empty
    let s' := execAll smallConfig
      [.claimJointNativeSend (newAdmission turnRequest (1, some 2)) "send"] s
    ∃ row row', s.turns.get? ("session", "first") = some row ∧
      s'.turns.get? ("session", "first") = some row' ∧
      row'.intentId = row.intentId ∧ row'.clientRequestId = row.clientRequestId := by
  intro s s'
  have hsome : (s.turns.get? ("session", "first")).isSome = true := by decide +kernel
  obtain ⟨row, hrow⟩ := Option.isSome_iff_exists.1 hsome
  obtain ⟨row', hrow', hsame⟩ := turns_keep_identity smallConfig _ _ hrow
  exact ⟨row, row', hrow, hrow', hsame⟩

end XGovernor.Joint
