import XGovernor.Joint.Budgets
import XGovernor.Joint.Suspension

/-!
# Holds of Host operations

A Host operation has an allocation of its owner and a hold on its Root from its admission until
nothing is left to clean up.  Four kinds of calls give them back, each of them both at once, and
only when no step that was sent is unsettled.
-/

namespace XGovernor.Joint

open Domain Lib Ledger Table

variable {config : StoreConfig} {s s' : Db} {call : Call} {id : String}

/-! ## The invariant -/

/-- No step that was claimed is unsettled. -/
def ClaimsSettled (h : HostIntentV1) : Prop :=
  ∀ o, some o ∈ h.observations → o.settled = true

theorem claimsSettled_of_settled {h}
    (hsettled : allSettled h = true ∨ h.observations.all Option.isNone = true) :
    ClaimsSettled h := by
  intro o ho
  rcases hsettled with hsettled | hnone
  · exact settled_of_allSettledFrom hsettled ho
  · exact absurd (List.all_eq_true.1 hnone _ ho) (by simp)

/-- The journal of an operation without native steps has one observation. -/
theorem length_of_verifyIntent {codec h}
    (hver : verifyIntent codec h = .ok ()) (hnat : h.prepared.native = []) :
    h.observations.length = 1 := by
  simp only [verifyIntent, except_bind_eq_ok, ensure_eq_ok, Bool.and_eq_true,
    decide_eq_true_eq] at hver
  obtain ⟨_, hreq, _, ⟨hlen, -⟩, -⟩ := hver
  rw [hlen, ← native_length_of_verifyRequest hreq, hnat]
  rfl

/-- The only step of a read is settled once the read has failed. -/
theorem claimsSettled_staleRead {h : HostIntentV1} (hlen : h.observations.length = 1) :
    ClaimsSettled h.staleRead := by
  obtain ⟨first, hobs⟩ := List.length_eq_one_iff.1 hlen
  intro o ho
  simp only [HostIntentV1.staleRead, hobs, List.set_cons_zero, List.mem_singleton,
    Option.some.injEq] at ho
  rw [ho]

/-- What the journal of a Host operation says of its allocation and its hold. -/
structure HoldAgrees (s : Db) (id : String) (h : HostIntentV1) : Prop where
  allocation : ∃ row, s.hostAllocations.get? id = some row ∧
    (row.state = .released ↔ h.cleanupState = .done)
  hold : s.refs.get? (.hostHold, id) = none ↔ h.cleanupState = .done
  unfinished : h.result = none → h.cleanupState ≠ .done
  settled : h.result ≠ none → ClaimsSettled h

/-- **Holds**: the journals agree with the allocations and the holds. -/
def HoldsAgree (s : Db) : Prop :=
  ∀ id h, s.hostIntents.get? id = some h → HoldAgrees s id h

private theorem HoldAgrees.kept {h} (agrees : HoldAgrees s id h)
    (hkept : HostKept s s' id) : HoldAgrees s' id h where
  allocation := hkept.allocation.symm ▸ agrees.allocation
  hold := hkept.hold.symm ▸ agrees.hold
  unfinished := agrees.unfinished
  settled := agrees.settled

/-- The allocation and the hold stay until nothing is left to clean up. -/
private theorem HoldAgrees.noted {h h'} (agrees : HoldAgrees s id h)
    (hres : h.result = none) (hsettled' : h'.result ≠ none → ClaimsSettled h')
    (hcleanup' : h'.cleanupState ≠ .done)
    (hallocation : s'.hostAllocations.get? id = s.hostAllocations.get? id)
    (hhold : s'.refs.get? (.hostHold, id) = s.refs.get? (.hostHold, id)) :
    HoldAgrees s' id h' := by
  have hunfin := agrees.unfinished hres
  obtain ⟨row, hrow, hrel⟩ := agrees.allocation
  refine ⟨⟨row, hallocation.trans hrow, ?_⟩, ?_, fun _ => hcleanup', hsettled'⟩
  · exact iff_of_false (hrel.not.2 hunfin) hcleanup'
  · rw [hhold]
    exact iff_of_false (agrees.hold.not.2 hunfin) hcleanup'

/-- The allocation and the hold are given back together. -/
private theorem HoldAgrees.released {h h'} (agrees : HoldAgrees s id h) (hres' : h'.result ≠ none)
    (hcleanup' : h'.cleanupState = .done) (hsettled : ClaimsSettled h')
    (halloc : s'.hostAllocations = releasedAllocations s.hostAllocations id)
    (hrefs : s'.refs = s.refs.erase fun key _ => key = (.hostHold, id)) : HoldAgrees s' id h' := by
  obtain ⟨row, hrow, -⟩ := agrees.allocation
  refine ⟨⟨{ row with state := .released }, ?_, iff_of_true rfl hcleanup'⟩, ?_,
    fun hres => absurd hres hres', fun _ => hsettled⟩
  · rw [halloc]
    exact get?_modify_key_self hrow _
  · refine iff_of_true ?_ hcleanup'
    rw [hrefs, get?_erase]
    cases s.refs.get? (.hostHold, id) <;> simp

section Act

variable {h h' : HostIntentV1} (agrees : HoldAgrees s h.access.admission.intentId h)
  (heff : Effect config s call s') (hown : call.access? = some h.access)
  (hosts : HostsCoherent s)
  (hsto : s.hostIntents.get? h.access.admission.intentId = some h)
  (hsto' : s'.hostIntents.get? h.access.admission.intentId = some h')

include agrees heff hown hosts hsto hsto'

/-- **Step**: a call with the token of a Host operation keeps its allocation and its hold, or
gives both back. -/
private theorem HoldAgrees.act : HoldAgrees s' h.access.admission.intentId h' := by
  have hact : ∀ {access : HostAccessTokenV1} {h₂ : HostIntentV1} {op : OperationRow},
      call.access? = some access → s.ledger.RunsHost access h₂ op →
      access = h.access ∧ h = h₂ ∧ h.result = none := by
    intro access h₂ op hacc hruns
    obtain ⟨rfl, rfl⟩ := hruns.journal.own hacc hown hsto
    exact ⟨rfl, rfl, ((hosts.shape _ h op hsto hruns.stored).of_active hruns.active).2⟩
  cases heff with
  -- an operation that runs has no result yet, so nothing is given back
  | claimHost runs | recordHost runs | recover runs | suspend runs =>
    obtain ⟨rfl, rfl, hres⟩ := hact rfl runs
    cases hsto'.symm.trans (savedIntents_self hsto _ rfl)
    exact agrees.noted hres (absurd hres) (agrees.unfinished hres) rfl rfl
  | delegateCleanup runs | endDelegation runs =>
    obtain ⟨rfl, rfl, hres⟩ := hact rfl runs
    cases hsto'.symm.trans (savedIntents_self hsto _ rfl)
    exact agrees.noted hres (absurd hres) (by simp) rfl rfl
  | @resume _ _ op _ _ _ _ admission journal _ _ _ _ _ admission_eq stored op_suspended =>
    obtain ⟨rfl, rfl⟩ := journal.own rfl hown hsto
    have hid : admission.intentId = h.access.admission.intentId := by rw [admission_eq]
    cases hsto'.symm.trans (savedIntents_self hsto _ hid)
    have hres := (hosts.shape _ h op hsto stored).unpublished_of_suspended op_suspended
    exact agrees.noted hres (absurd hres) (agrees.unfinished hres) rfl rfl
  | failStale finishes journal verified _ _ _ _ _ native =>
    obtain ⟨rfl, rfl⟩ := journal.own (access?_of_stale finishes) hown hsto
    cases hsto'.symm.trans (savedIntents_self hsto _ rfl)
    exact agrees.released (by simp [HostIntentV1.staleRead]) rfl
      (claimsSettled_staleRead (length_of_verifyIntent verified native)) rfl rfl
  | @publishHost _ _ _ _ result _ finishes runs _ settled =>
    obtain ⟨rfl, rfl, hres⟩ := hact (access?_of_result finishes) runs
    cases hsto'.symm.trans (savedIntents_self hsto _ rfl)
    have hsettled := claimsSettled_of_settled settled
    -- a result that may have left something behind keeps the hold until the cleanup is done
    cases hnothing : leavesNothing h.access h result with
    | true => exact agrees.released (by simp [HostIntentV1.published]) rfl hsettled rfl rfl
    | false =>
      exact agrees.noted hres (fun _ => hsettled) (by simp [HostIntentV1.published]) rfl rfl
  | finishCleanup journal _ published =>
    obtain ⟨rfl, rfl⟩ := journal.own rfl hown hsto
    cases hsto'.symm.trans (savedIntents_self hsto _ rfl)
    exact agrees.released published rfl (agrees.settled published) rfl rfl
  | quiet | cancel | dependency | intents =>
    cases hsto.symm.trans hsto'
    exact agrees.kept ⟨rfl, rfl, rfl, rfl, rfl, .refl _ _⟩
  | _ => exact absurd hown (by simp [Call.access?])

end Act

/-- A Host operation that was just admitted has its allocation and its hold. -/
private theorem AdmitsHost.holdAgrees {prepared}
    (admits : AdmitsHost config s prepared s') (access) :
    HoldAgrees s' prepared.context.intentId (newHostIntent config.codec prepared access) where
  allocation := by
    refine ⟨⟨prepared.target.ownerRef, prepared.request.reservedBytes, .reserved⟩, ?_,
      by simp [newHostIntent]⟩
    rw [admits.allocations, get?_add_self admits.unallocated]
  hold := by
    rw [admits.refs, get?_add_self admits.unheld]
    simp [newHostIntent]
  unfinished := by simp [newHostIntent]
  settled := by simp [newHostIntent]

theorem HoldsAgree.step (agree : HoldsAgree s) (heff : Effect config s call s')
    (hosts : HostsCoherent s) (sound : s.ledger.Sound) (coherent : s.ledger.Coherent)
    (verified : Verified s) : HoldsAgree s' := by
  intro id h' hsto'
  rcases heff.hostIntents.origin hsto' with ⟨-, ⟨hadm, rfl⟩⟩ | ⟨h, hsto, -⟩
  · exact hadm.holdAgrees _
  · have agrees := agree id h hsto
    rcases heff.host_kept sound coherent verified hsto with hkept | hown
    · cases hsto.symm.trans (hkept.journal.symm.trans hsto')
      exact agrees.kept hkept
    · obtain ⟨op, hop, hjour⟩ := sound.journal id h hsto
      obtain rfl : h.access.admission.intentId = id :=
        hjour.intent.trans (sound.identified id op hop).intent
      exact agrees.act heff hown hosts hsto hsto'

/-- **Run**: allocations and holds agree with the journals in every database that calls lead
to. -/
theorem holdsAgree_of_storeReachable (h : StoreReachable config s) : HoldsAgree s := by
  refine h.induct (P := HoldsAgree) (by simp [HoldsAgree, Db.empty]) ?_
  intro s event s' hreach agree hcom
  have hreached := ledger_reached hreach
  exact agree.step (effect_of_commit hcom) (hostsCoherent_of_storeReachable hreach)
    hreached.guarded.sound hreached.coherent (verified_of_storeReachable hreach)

/-! ## Releases -/

/-- The allocation of the operation was given back. -/
def AllocationReleased (s : Db) (id : String) : Prop :=
  ∃ row, s.hostAllocations.get? id = some row ∧ row.state = .released

theorem Effect.allocationReleased_stays (heff : Effect config s call s')
    (hrel : AllocationReleased s id) : AllocationReleased s' id := by
  obtain ⟨row, hrow, hstate⟩ := hrel
  cases heff.allocationChange with
  | same allocations_eq => exact ⟨row, allocations_eq ▸ hrow, hstate⟩
  | released id' allocations_eq =>
    unfold AllocationReleased
    rw [allocations_eq]
    by_cases hid : id = id'
    · subst hid
      exact ⟨_, get?_modify_key_self hrow _, rfl⟩
    · exact ⟨row, (get?_modify_key_of_ne _ hid _).trans hrow, hstate⟩
  | admitted admits =>
    exact ⟨row, by simp [admits.allocations, get?_add, hrow], hstate⟩

/-- The calls that give an allocation back: one that publishes the result of an operation that
was never sent, one that fails a stale read, one that publishes a write whose failure was
reconciled, and one that finishes the cleanup of a published result. -/
inductive ReleasingCall (h h' : HostIntentV1) (call : Call) : Prop
  | unsent (result : Json) (finishes : call = .finishHost h.access result ∨
        ∃ before after, call = .finishHostRead h.access result before after)
      (unclaimed : ∀ o ∈ h.observations, o = none)
  | stale (finishes : call = .failStaleHostRead h.access ∨
        ∃ result before after, call = .finishHostRead h.access result before after)
      (read : h.prepared.request.isRead = true) (failed : h' = h.staleRead)
  | reconciled (result : Json) (finishes : call = .finishHost h.access result ∨
        ∃ before after, call = .finishHostRead h.access result before after)
      (reconciled : reconciledFailure h.access h result = true)
  | cleaned (finishes : call = .finishHostCleanup h.access) (published : h.result ≠ none)

/-- **Release**: only these calls give an allocation back. -/
theorem Effect.releasingCall (heff : Effect config s call s') (verified : Verified s)
    (hheld : ¬ AllocationReleased s id) (hrel : AllocationReleased s' id) :
    ∃ h h', s.hostIntents.get? id = some h ∧ s'.hostIntents.get? id = some h' ∧
      ReleasingCall h h' call := by
  -- the released state is new, so the call has written the allocation
  have hsame : s'.hostAllocations = s.hostAllocations → False := by
    rintro halloc
    obtain ⟨row, hrow, hstate⟩ := hrel
    exact hheld ⟨row, halloc ▸ hrow, hstate⟩
  -- the allocation that was released is the one of the operation the call is about
  have hid : ∀ {id' : String},
      s'.hostAllocations = releasedAllocations s.hostAllocations id' → id = id' := by
    intro id' halloc
    by_contra hne
    obtain ⟨row, hrow, hstate⟩ := hrel
    rw [halloc, releasedAllocations, get?_modify_key_of_ne _ hne] at hrow
    exact hheld ⟨row, hrow, hstate⟩
  cases heff with
  | admitJoint admits =>
    refine (hsame ?_).elim
    rw [admits.frame]
    rfl
  | admitHost admits =>
    obtain ⟨row, hrow, hstate⟩ := hrel
    rw [admits.allocations] at hrow
    rcases get?_add_cases hrow with hold | ⟨-, -, rfl⟩
    · exact absurd ⟨row, hold, hstate⟩ hheld
    · exact absurd hstate (by simp)
  | @failStale _ access h _ finishes journal _ _ _ _ _ _ native =>
    obtain rfl := hid rfl
    obtain rfl := journal.token
    refine ⟨h, _, journal.stored, savedIntents_self journal.stored _ rfl, .stale finishes ?_ rfl⟩
    exact (native_eq_nil_iff_of_verifyRequest (verified _ h journal.stored)).1 native
  | @publishHost _ access h _ result _ finishes runs =>
    cases hnothing : leavesNothing access h result with
    | false => exact (hsame (if_neg (by simp [hnothing]))).elim
    | true =>
      obtain rfl := hid (if_pos hnothing)
      obtain rfl := runs.journal.token
      refine ⟨h, _, runs.journal.stored, savedIntents_self runs.journal.stored _ rfl, ?_⟩
      rcases Bool.or_eq_true_iff.1 hnothing with hunsent | hreconciled
      · refine .unsent result finishes fun o ho => ?_
        exact Option.isNone_iff_eq_none.1 (List.all_eq_true.1 hunsent o ho)
      · exact .reconciled result finishes hreconciled
  | @finishCleanup access h journal _ published =>
    obtain rfl := hid rfl
    obtain rfl := journal.token
    exact ⟨h, _, journal.stored, savedIntents_self journal.stored _ rfl, .cleaned rfl published⟩
  | _ => exact (hsame rfl).elim

/-- **Holds of Host operations**: the allocation of a Host operation is unreleased as long as its
hold exists and its cleanup is not done; an allocation that was released was released by exactly
one call; and such a call is one of the four kinds, and leaves no claimed step unsettled. -/
theorem host_holds_coherent {tr : List (Db × (Call × Reply))}
    (h : Run (Commit config) Db.empty tr s) :
    (∀ id host, s.hostIntents.get? id = some host →
      (∃ row, s.hostAllocations.get? id = some row ∧
        (row.state ≠ .released ↔ s.refs.get? (.hostHold, id) ≠ none)) ∧
      (s.refs.get? (.hostHold, id) ≠ none ↔ host.cleanupState ≠ .done)) ∧
    (∀ id, AllocationReleased s id →
      ∃! i : Nat, ∃ e : Db × (Call × Reply), tr[i]? = some e ∧ ¬ AllocationReleased e.1 id ∧
        ∃ t, Commit config e.1 e.2 t ∧ AllocationReleased t id) ∧
    ∀ id event s', Commit config s event s' → ¬ AllocationReleased s id → AllocationReleased s' id →
      ∃ host host', s.hostIntents.get? id = some host ∧ s'.hostIntents.get? id = some host' ∧
        ReleasingCall host host' event.1 ∧
        ∀ (i : Nat) o, host'.observations[i]? = some (some o) → o.settled = true := by
  have hreach : StoreReachable config s := ⟨tr, h⟩
  have agree := holdsAgree_of_storeReachable hreach
  refine ⟨?_, ?_, ?_⟩
  · intro id host hsto
    obtain ⟨⟨row, hrow, hrel⟩, hhold, -⟩ := agree id host hsto
    exact ⟨⟨row, hrow, (hrel.trans hhold.symm).not⟩, hhold.not⟩
  · intro id hrel
    refine h.existsUnique_raise (F := fun t => AllocationReleased t id) ?_ ?_ ?_ hrel
    -- calls are deterministic, what is released stays released, and nothing is at the start
    · intro t event a b ha hb
      have hsame := Except.ok.inj ((show _ = _ from ha).symm.trans hb)
      exact (Prod.mk.inj hsame).2
    · intro t event t' hcom
      exact (effect_of_commit hcom).allocationReleased_stays
    · rintro ⟨row, hrow, -⟩
      exact absurd hrow (by simp [Db.empty])
  · intro id event s' hcom hheld hrel
    have hreach' : StoreReachable config s' := hreach.run (Run.nil.snoc hcom)
    obtain ⟨host, host', hsto, hsto', hcall⟩ := (effect_of_commit hcom).releasingCall
      (verified_of_storeReachable hreach) hheld hrel
    refine ⟨host, host', hsto, hsto', hcall, fun i o ho => ?_⟩
    have agrees := holdsAgree_of_storeReachable hreach' id host' hsto'
    obtain ⟨row, hrow, hstate⟩ := hrel
    obtain ⟨row', hrow', hdone⟩ := agrees.allocation
    cases hrow.symm.trans hrow'
    have hres : host'.result ≠ none := fun hnone => agrees.unfinished hnone (hdone.1 hstate)
    exact agrees.settled hres o (List.mem_of_getElem? ho)

/-- When the execution has its result and its cleanup is finished, its allocation was released
once, and its hold is gone. -/
theorem host_holds_of_finished :
    let calls := hostCalls ++ [.finishHost hostToken (.object []), .finishHostCleanup hostToken]
    let s := execAll smallConfig calls Db.empty
    AllocationReleased s "exec" ∧ s.refs.get? (.hostHold, "exec") = none ∧
    ∃! i : Nat, ∃ e : Db × (Call × Reply), (traceAll smallConfig calls Db.empty)[i]? = some e ∧
      ¬ AllocationReleased e.1 "exec" ∧
      ∃ t, Commit smallConfig e.1 e.2 t ∧ AllocationReleased t "exec" := by
  intro calls s
  have hrel : AllocationReleased s "exec" := by
    unfold AllocationReleased
    decide +kernel
  refine ⟨hrel, by decide +kernel, ?_⟩
  exact (host_holds_coherent (run_execAll smallConfig calls Db.empty)).2.1 "exec" hrel

end XGovernor.Joint
