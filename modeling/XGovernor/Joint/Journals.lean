import XGovernor.Joint.Operations

/-!
# Journals of Host operations

What the journal of a Host operation says about its native steps.  The tests that let an
operation give up its fence read the native steps of ordinary operations, but only the
journal of Host operations.
-/

namespace XGovernor.Joint.Ledger

open Domain Lib

variable {L L' : Ledger} {event : Event}
variable {id : String} {h h' : HostIntentV1} {steps : String × String → Option StepRow}
  {native : Option JointNativeIntent} {natives : List JointNativeIntent}
  {outcome : JointNativeOutcome} {o : HostObservationV1} {key : String × String}
  {fresh id' : String} {row' : StepRow}

/-- What the journal of a Host operation says about its native steps: one that was not claimed
has no outcome, and one that is settled has a terminal outcome. -/
structure JournalAgrees (L : Ledger) (id : String) (h : HostIntentV1) : Prop where
  distinct : (h.prepared.native.map (·.step)).Nodup
  covered : h.prepared.native.length ≤ h.observations.length
  listed : ∀ name row, L.steps (id, name) = some row →
    ∃ (i : Nat) (n : JointNativeIntent), h.prepared.native[i]? = some n ∧ n.step = name
  unclaimed : ∀ (i : Nat) (n : JointNativeIntent) (row : StepRow),
    h.prepared.native[i]? = some n → L.steps (id, n.step) = some row →
    h.observations[i]? = some none → row.outcome = none
  settled : ∀ (i : Nat) (n : JointNativeIntent) (row : StepRow) (o : HostObservationV1),
    h.prepared.native[i]? = some n → L.steps (id, n.step) = some row →
    h.observations[i]? = some (some o) → o.settled = true →
    ∃ outcome, row.outcome = some outcome ∧ outcome.state.isTerminal = true

/-- Every observation of a settled journal is settled. -/
theorem settled_of_allSettledFrom {failed observations}
    (h : allSettledFrom failed observations = true) (ho : some o ∈ observations) :
    o.settled = true := by
  induction observations generalizing failed with
  | nil => simp at ho
  | cons first rest ih =>
    cases first with
    | none =>
      simp only [allSettledFrom, Bool.and_eq_true] at h
      exact ih h.2 (by simpa using ho)
    | some first =>
      simp only [allSettledFrom, Bool.and_eq_true] at h
      rcases List.mem_cons.1 ho with heq | hrest
      · rw [Option.some.inj heq]
        exact h.1.1
      · exact ih h.2 hrest

/-- **Quiet journals**: an operation whose journal is settled, or was never claimed, or that
has no native step, has no native step with an outcome that is not terminal. -/
theorem JournalAgrees.quiet (hagr : L.JournalAgrees id h)
    (hquiet : allSettled h = true ∨ (∀ o ∈ h.observations, o = none) ∨ h.prepared.native = []) :
    L.Quiet id := by
  intro name row outcome hrow hout
  obtain ⟨i, n, hn, rfl⟩ := hagr.listed name row hrow
  have hi : i < h.observations.length :=
    Nat.lt_of_lt_of_le (List.getElem?_eq_some_iff.1 hn).1 hagr.covered
  have hobservation := List.getElem?_eq_getElem hi
  have hmem := List.getElem_mem hi
  cases ho : h.observations[i] with
  | none =>
    rw [ho] at hobservation
    have hnone := hagr.unclaimed i n row hn hrow hobservation
    rw [hout] at hnone
    exact absurd hnone (by simp)
  | some o =>
    rw [ho] at hobservation hmem
    rcases hquiet with hsettled | hnone | hnil
    · obtain ⟨outcome', hout', hterm⟩ := hagr.settled i n row o hn hrow hobservation
        (settled_of_allSettledFrom hsettled hmem)
      rw [Option.mem_unique hout hout']
      exact hterm
    · exact absurd (hnone _ hmem) (by simp)
    · simp [hnil] at hn

/-- A journal agrees as long as the native steps of its operation are left alone. -/
private theorem JournalAgrees.frame (hagr : L.JournalAgrees id h)
    (hsteps : ∀ name, L'.steps (id, name) = L.steps (id, name))
    (hprep : h'.prepared = h.prepared) (hobs : h'.observations = h.observations) :
    L'.JournalAgrees id h' := by
  constructor
  · rw [hprep]
    exact hagr.distinct
  · rw [hprep, hobs]
    exact hagr.covered
  · rw [hprep]
    intro name row hrow
    exact hagr.listed name row (hsteps name ▸ hrow)
  · rw [hprep, hobs]
    intro i n row hn hrow
    exact hagr.unclaimed i n row hn (hsteps n.step ▸ hrow)
  · rw [hprep, hobs]
    intro i n row o hn hrow
    exact hagr.settled i n row o hn (hsteps n.step ▸ hrow)

private theorem index_eq_of_step_eq
    (hdist : (natives.map (·.step)).Nodup) {i j : Nat} {n m : JointNativeIntent}
    (hn : natives[i]? = some n) (hm : natives[j]? = some m) (hstep : n.step = m.step) :
    i = j := by
  have hi : i < (natives.map (·.step)).length := by
    simpa using (List.getElem?_eq_some_iff.1 hn).1
  exact (List.getElem?_inj hi hdist).1 (by simp [hn, hm, hstep])

/-- A journal agrees after the observation of one step, if only the native step of that
observation was written and a settled observation goes with a terminal outcome. -/
private theorem JournalAgrees.observe {index : Nat} (hagr : L.JournalAgrees id h)
    (hprep : h'.prepared = h.prepared) (hobs : h'.observations = h.observations.set index (some o))
    (hoth : ∀ name row', L'.steps (id, name) = some row' → ∃ row, L.steps (id, name) = some row ∧
        ((∀ n, h.prepared.native[index]? = some n → n.step ≠ name) → row' = row))
    (hsettled : ∀ (n : JointNativeIntent) (row'), h.prepared.native[index]? = some n →
      L'.steps (id, n.step) = some row' → o.settled = true →
      ∃ outcome, row'.outcome = some outcome ∧ outcome.state.isTerminal = true) :
    L'.JournalAgrees id h' := by
  -- the native step of another index was not written
  have hother : ∀ {i : Nat} {n : JointNativeIntent} {row' : StepRow}, i ≠ index →
      h.prepared.native[i]? = some n → L'.steps (id, n.step) = some row' →
      L.steps (id, n.step) = some row' := by
    intro i n row' hi hn hrow'
    obtain ⟨row, hrow, hsame⟩ := hoth n.step row' hrow'
    rw [hsame fun m hm hname =>
      hi (index_eq_of_step_eq hagr.distinct hn hm hname.symm)]
    exact hrow
  constructor
  · rw [hprep]
    exact hagr.distinct
  · rw [hprep, hobs, List.length_set]
    exact hagr.covered
  · rw [hprep]
    intro name row' hrow'
    obtain ⟨row, hrow, -⟩ := hoth name row' hrow'
    exact hagr.listed name row hrow
  · rw [hprep, hobs]
    intro i n row' hn hrow' hnone
    -- the observation of this index is the new one, all others are as before
    by_cases hi : i = index
    · subst hi
      rw [List.getElem?_set_self'] at hnone
      simp at hnone
    · rw [List.getElem?_set_ne (Ne.symm hi)] at hnone
      exact hagr.unclaimed i n row' hn (hother hi hn hrow') hnone
  · rw [hprep, hobs]
    intro i n row' o' hn hrow' ho' hsettled'
    by_cases hi : i = index
    · subst hi
      have heq : o' = o := by
        rw [List.getElem?_set_self'] at ho'
        obtain ⟨_, -, ho'⟩ := Option.map_eq_some_iff.1 ho'
        simpa [eq_comm] using ho'
      exact hsettled n row' hn hrow' (heq ▸ hsettled')
    · rw [List.getElem?_set_ne (Ne.symm hi)] at ho'
      exact hagr.settled i n row' o' hn (hother hi hn hrow') ho' hsettled'

private theorem step_others {p : StepRow → Prop} [DecidablePred p] {change : StepRow → StepRow}
    (hrow' : (steps key).map (fun row => if p row then change row else row) = some row')
    (hp : ∀ row, p row → native.any (fun n => key = (id, n.step)) = true) :
    ∃ row, steps key = some row ∧ ((∀ n, native = some n → (id, n.step) ≠ key) → row' = row) := by
  obtain ⟨row, hrow, heq⟩ := Option.map_eq_some_iff.1 hrow'
  refine ⟨row, hrow, fun hne => ?_⟩
  rw [← heq, if_neg]
  intro hown
  obtain ⟨n, hn, hkey⟩ := (Option.any_eq_true _ _).1 (hp row hown)
  exact hne n hn (of_decide_eq_true hkey).symm

private theorem claimedStep_of_ne (hne : id' ≠ id) (name : String) :
    claimedStep steps id native (id', name) = steps (id', name) := by
  cases hrow : steps (id', name) <;> simp [claimedStep, hrow, hne]

private theorem reportedStep_of_ne (hne : id' ≠ id)
    (name : String) : reportedStep steps id native outcome (id', name) = steps (id', name) := by
  cases hrow : steps (id', name) <;> simp [reportedStep, hrow, hne]

/-- The journals of all Host operations agree with their native steps. -/
def JournalsAgree (L : Ledger) : Prop :=
  ∀ id h, L.hosts id = some h → L.JournalAgrees id h

/-- A step on the journal of one operation: the others are left alone. -/
private theorem journalsAgree_update (hagree : L.JournalsAgree)
    {key} (hhosts : L'.hosts = Function.update L.hosts key (some h'))
    (hsteps : ∀ id name, id ≠ key → L'.steps (id, name) = L.steps (id, name))
    (hown : L'.JournalAgrees key h') : L'.JournalsAgree := by
  intro id h hsto
  rw [hhosts] at hsto
  refine Table.forall_update (P := fun id h => L'.JournalAgrees id h) hown ?_ hsto
  intro id h hne hsto
  exact (hagree id h hsto).frame (fun name => hsteps id name hne) rfl rfl

/-- A step that leaves all journals alone, and native steps of Host operations too. -/
private theorem journalsAgree_frame (hagree : L.JournalsAgree) (hhosts : L'.hosts = L.hosts)
    (hsteps : ∀ id h name, L.hosts id = some h → L'.steps (id, name) = L.steps (id, name)) :
    L'.JournalsAgree := by
  intro id h hsto
  rw [hhosts] at hsto
  exact (hagree id h hsto).frame (fun name => hsteps id h name hsto) rfl rfl

/-- An ordinary operation has no journal. -/
private theorem ne_of_ordinary (sound : L.Sound) {admission op}
    (runs : L.RunsOrdinary admission op) (hsto : L.hosts id = some h) :
    id ≠ admission.intentId := by
  rintro rfl
  have hhost := (sound.journal_of hsto runs.stored).host
  rw [runs.ordinary] at hhost
  exact Bool.noConfusion hhost

/-- An operation that is not admitted yet has no journal. -/
private theorem ne_of_fresh (sound : L.Sound)
    (hfresh : L.operations fresh = none) (hsto : L.hosts id = some h) : id ≠ fresh := by
  rintro rfl
  obtain ⟨op, hop, -⟩ := sound.journal id h hsto
  rw [hfresh] at hop
  exact absurd hop (by simp)

/-- The journal of a Host operation that has just been admitted. -/
private theorem journalAgrees_new (sound : L.Sound) {prepared host}
    (hfresh : L.operations prepared.context.intentId = none)
    (hsteps : AddsSteps L.steps L'.steps prepared.context.intentId prepared.native)
    (hprep : host.prepared = prepared)
    (hobs : host.observations = List.replicate (max prepared.native.length 1) none) :
    L'.JournalAgrees prepared.context.intentId host := by
  subst hprep
  constructor
  · exact hsteps.distinct
  · rw [hobs, List.length_replicate]
    exact Nat.le_max_left ..
  · intro name row hrow
    rcases hsteps.new _ _ hrow with hold | ⟨-, -, hmem, hname, -⟩
    · obtain ⟨op, hop⟩ := sound.step_owner _ _ _ hold
      rw [hfresh] at hop
      exact absurd hop (by simp)
    · obtain ⟨i, hi, hn⟩ := List.getElem_of_mem hmem
      exact ⟨i, row.native, by rw [List.getElem?_eq_getElem hi, hn], hname.symm⟩
  · intro i n row hn hrow _
    have hadded := hsteps.added n (List.mem_of_getElem? hn)
    rw [Option.mem_unique hrow hadded]
  · intro i n row o _ _ ho
    have hnone := List.mem_of_getElem? ho
    rw [hobs] at hnone
    exact absurd (List.eq_of_mem_replicate hnone) (by simp)

theorem JournalsAgree.empty : Ledger.empty.JournalsAgree := by
  simp [JournalsAgree, Ledger.empty]

/-- **Journals agree**: every step keeps the journals in agreement with the native steps. -/
theorem JournalsAgree.step (hagree : L.JournalsAgree) (sound : L.Sound)
    (hstep : Step L event L') : L'.JournalsAgree := by
  -- a step writes no journal, or one journal and the native steps of its operation only
  have hframe := @journalsAgree_frame L L' hagree
  have hupd {h' : HostIntentV1} := @journalsAgree_update L L' h' hagree
  have hobserve := fun id h h' index o hsto =>
    @JournalAgrees.observe L L' id h h' index o (hagree id h hsto)
  have hnote := fun id h h' hsto =>
    @JournalAgrees.frame L L' id h h' (hagree id h hsto)
  cases hstep with
  | admitNew _ _ fresh _ _ _ adds_steps | admitExisting _ _ fresh _ _ _ _ _ _ _ adds_steps =>
    exact hframe rfl fun id h name hsto =>
      adds_steps.toGrows.frame fun _ hnew => ne_of_fresh sound fresh hsto hnew.1
  | dispatch runs | append runs | record runs =>
    refine hframe rfl fun id h name hsto => Function.update_of_ne ?_ ..
    intro heq
    exact ne_of_ordinary sound runs hsto (congrArg Prod.fst heq)
  | admitHost _ _ _ fresh _ _ _ _ _ _ _ _ _ _ _ adds_steps host_prepared _ host_observations =>
    refine hupd rfl (fun id name hne => adds_steps.toGrows.frame fun _ hnew => hne hnew.1) ?_
    exact journalAgrees_new sound fresh adds_steps host_prepared host_observations
  | claimHost _ runs unclaimed prepared_eq access_eq observations_eq =>
    refine hupd rfl (fun id name hne => ?_)
      (hobserve _ _ _ _ _ runs.journal.stored prepared_eq observations_eq ?_ ?_)
    · split
      · rfl
      · exact claimedStep_of_ne hne name
    · intro name row' hrow'
      split at hrow'
      · exact ⟨row', hrow', fun _ => rfl⟩
      · obtain ⟨row, hrow, hsame⟩ := step_others hrow' fun _ h => h.1
        exact ⟨row, hrow, fun hne => hsame fun n hn heq => hne n hn (congrArg Prod.snd heq)⟩
    · intro n row' _ _ hsettled
      -- a claim is not a settled observation
      exact Bool.noConfusion hsettled
  | recordHost _ runs claimed unsettled terminal _ _ prepared_eq access_eq observations_eq =>
    refine hupd rfl (fun id name hne => reportedStep_of_ne hne name)
      (hobserve _ _ _ _ _ runs.journal.stored prepared_eq observations_eq ?_ ?_)
    · intro name row' hrow'
      obtain ⟨row, hrow, hsame⟩ := step_others hrow' fun _ h => h
      exact ⟨row, hrow, fun hne => hsame fun n hn heq => hne n hn (congrArg Prod.snd heq)⟩
    · -- the outcome that is stored has the state of the observation
      intro n row' hn hrow' hsettled
      obtain ⟨row, -, rfl⟩ := Option.map_eq_some_iff.1 hrow'
      rw [if_pos (by simp [hn])]
      exact ⟨_, rfl, terminal hsettled⟩
  | settleHost _ _ _ _ journal _ _ _ prepared_eq access_eq observations_eq =>
    refine hupd rfl (fun _ _ _ => rfl) ?_
    rcases observations_eq with hsame | ⟨hnil, o, hset⟩
    · exact hnote _ _ _ journal.stored (fun _ => rfl) prepared_eq hsame
    -- a stale read has no native step, so the new observation stands for none
    · exact hobserve _ _ _ _ _ journal.stored prepared_eq hset
        (fun name row' hrow' => ⟨row', hrow', fun _ => rfl⟩) (by simp [hnil])
  | delegateCleanup _ runs _ _ _ prepared_eq access_eq observations_eq
  | suspendCleanup _ runs _ _ _ prepared_eq access_eq observations_eq
  | endDelegation _ runs _ _ prepared_eq access_eq observations_eq =>
    exact hupd rfl (fun _ _ _ => rfl)
      (hnote _ _ _ runs.journal.stored (fun _ => rfl) prepared_eq observations_eq)
  | noteHost _ _ journal prepared_eq access_eq observations_eq
  | resumeCleanup _ journal _ _ _ _ _ _ _ _ _ _ _ _ prepared_eq access_eq observations_eq =>
    exact hupd rfl (fun _ _ _ => rfl)
      (hnote _ _ _ journal.stored (fun _ => rfl) prepared_eq observations_eq)
  | _ => exact hframe rfl fun _ _ _ _ => rfl

end XGovernor.Joint.Ledger
