import XGovernor.Joint.Journals
import XGovernor.Joint.Refinement

/-!
# Fencing

A Root whose fence is held has no held source, and a native step whose outcome is not
terminal belongs to an operation that still holds its fence.  So nothing is admitted on the
source of an unresolved native step.
-/

namespace XGovernor.Joint.Ledger

open Domain Lib

variable {L L' : Ledger} {event : Event}
variable {rootId tenant : String} {fence : FenceRow} {request : JointPrepareRequest}
  {rootEpoch : Nat} {sourceEpoch : Option Nat} {op : OperationRow}

/-! ## Exclusion -/

/-- While a Root fence is held, no source of the Root is. -/
def Exclusion (fences : FenceKind × String → Option FenceRow) : Prop :=
  ∀ rootId root, fences (.root, rootId) = some root → root.holder ≠ none →
    ∀ sourceId source, fences (.source, sourceId) = some source → source.rootId = rootId →
      source.holder = none

variable {fences fences' : FenceKind × String → Option FenceRow} {request' : JointPrepareRequest}

private theorem ensured_eq {key k} (h : ensured fences key rootId tenant k = some fence) :
    fences k = some fence ∨ (fences k = none ∧ k = key ∧ fence = ⟨rootId, tenant, 0, none⟩) := by
  cases hk : fences k with
  | some old => exact .inl (by simpa [ensured, hk] using h)
  | none =>
    by_cases hkey : k = key
    · subst hkey
      exact .inr ⟨rfl, rfl, by simpa [ensured, hk, eq_comm] using h⟩
    · simp [ensured, hk, hkey] at h

private theorem exclusion_ensured (h : Exclusion fences) (key : FenceKind × String) (rootId tenant)
    : Exclusion (ensured fences key rootId tenant) := by
  intro rootId' root hroot hheld sourceId source hsrc hid
  rcases ensured_eq hroot with hroot | ⟨-, -, rfl⟩
  · rcases ensured_eq hsrc with hsrc | ⟨-, -, rfl⟩
    · exact h rootId' root hroot hheld sourceId source hsrc hid
    · rfl
  · exact absurd rfl hheld

private theorem taken_eq {key k id} (h : taken fences key id k = some fence) :
    (k ≠ key ∧ fences k = some fence) ∨
      (k = key ∧ ∃ old, fences k = some old ∧ fence.rootId = old.rootId) := by
  obtain ⟨old, hold, heq⟩ := Option.map_eq_some_iff.1 h
  by_cases hk : k = key
  · rw [if_pos hk] at heq
    exact .inr ⟨hk, old, hold, by rw [← heq]⟩
  · rw [if_neg hk] at heq
    exact .inl ⟨hk, heq ▸ hold⟩

/-- A Root fence may be taken when no source of the Root is held. -/
private theorem exclusion_taken_root (h : Exclusion fences) {id}
    (hfree : ∀ sourceId source, fences (.source, sourceId) = some source →
      source.rootId = rootId → source.holder = none) :
    Exclusion (taken fences (.root, rootId) id) := by
  intro rootId' root hroot hheld sourceId source hsrc hid
  have hsrc₀ : fences (.source, sourceId) = some source := by
    rcases taken_eq hsrc with ⟨-, hsrc⟩ | ⟨hkey, -⟩
    · exact hsrc
    · simp at hkey
  rcases taken_eq hroot with ⟨-, hroot⟩ | ⟨hkey, -⟩
  · exact h rootId' root hroot hheld sourceId source hsrc₀ hid
  · obtain rfl : rootId' = rootId := by simpa using hkey
    exact hfree sourceId source hsrc₀ hid

/-- A source fence may be taken when the fence of its Root is free. -/
private theorem exclusion_taken_source (h : Exclusion fences) {sourceId id source root}
    (hsrc : fences (.source, sourceId) = some source)
    (hroot : fences (.root, source.rootId) = some root) (hfree : root.holder = none) :
    Exclusion (taken fences (.source, sourceId) id) := by
  intro rootId' root' hroot' hheld sourceId' source' hsrc' hid
  have hroot₀ : fences (.root, rootId') = some root' := by
    rcases taken_eq hroot' with ⟨-, hroot'⟩ | ⟨hkey, -⟩
    · exact hroot'
    · simp at hkey
  rcases taken_eq hsrc' with ⟨-, hsrc'⟩ | ⟨hkey, old, hold, hrootId⟩
  · exact h rootId' root' hroot₀ hheld sourceId' source' hsrc' hid
  · -- the Root of the taken source would be held
    obtain rfl : sourceId' = sourceId := by simpa using hkey
    cases hsrc.symm.trans hold
    rw [← hrootId, hid, hroot₀, Option.some.injEq] at hroot
    exact absurd (hroot ▸ hfree) hheld

private theorem exclusion_released (h : Exclusion fences) (id : String) :
    Exclusion (released fences id) := by
  intro rootId root hroot hheld sourceId source hsrc hid
  obtain ⟨root₀, hroot₀, rfl⟩ := Option.map_eq_some_iff.1 hroot
  obtain ⟨source₀, hsrc₀, rfl⟩ := Option.map_eq_some_iff.1 hsrc
  have hheld₀ : root₀.holder ≠ none := by
    split at hheld
    · simp at hheld
    · exact hheld
  have hid₀ : source₀.rootId = rootId := by
    split at hid <;> exact hid
  have hfree := h rootId root₀ hroot₀ hheld₀ sourceId source₀ hsrc₀ hid₀
  simp [hfree]

/-- A fence stays, under its Root, and its epoch never decreases. -/
theorem Step.fence_stays (h : Step L event L') {key} (hfence : L.fences key = some fence) :
    ∃ fence', L'.fences key = some fence' ∧ fence'.rootId = fence.rootId ∧
      fence.epoch ≤ fence'.epoch := by
  have htaken : ∀ {fences : FenceKind × String → Option FenceRow} {k : FenceKind × String}
      {id : String}, fences key = some fence →
      ∃ fence', taken fences k id key = some fence' ∧ fence'.rootId = fence.rootId ∧
        fence.epoch ≤ fence'.epoch := by
    intro fences k id hfence
    simp only [taken, hfence, Option.map_some, Option.some.injEq, exists_eq_left']
    split <;> simp
  have hrel : ∀ {id : String},
      ∃ fence', released L.fences id key = some fence' ∧ fence'.rootId = fence.rootId ∧
        fence.epoch ≤ fence'.epoch := by
    intro id
    simp only [released, hfence, Option.map_some, Option.some.injEq, exists_eq_left']
    split <;> simp
  have hacquired : ∀ {request : JointPrepareRequest} {id tenant : String} {rootEpoch : Nat}
      {sourceEpoch : Option Nat} {fences' : FenceKind × String → Option FenceRow},
      Acquires L.fences request id tenant rootEpoch sourceEpoch fences' →
      ∃ fence', fences' key = some fence' ∧ fence'.rootId = fence.rootId ∧
        fence.epoch ≤ fence'.epoch := by
    intro request id tenant rootEpoch sourceEpoch fences' hacq
    cases hexcl : request.exclusiveRoot with
    | true =>
      rw [(hacq.exclusive hexcl).2.2]
      exact htaken (ensured_of_some hfence)
    | false =>
      rw [(hacq.ordinary hexcl).2]
      exact htaken (ensured_of_some (ensured_of_some hfence))
  cases h with
  | admitNew _ _ _ _ _ acquires | admitExisting _ _ _ _ _ _ _ _ _ acquires =>
    exact hacquired acquires
  | admitHost => exact htaken (ensured_of_some hfence)
  | resumeCleanup => exact htaken hfence
  | publish | settleTurn | finishCompensation | release | settleHost | suspendCleanup =>
    exact hrel
  | _ => exact ⟨fence, hfence, rfl, Nat.le_refl _⟩

private theorem Acquires.exclusion {id}
    (h : Acquires fences request id tenant rootEpoch sourceEpoch fences')
    (hexclusion : Exclusion fences) : Exclusion fences' := by
  have hensured := exclusion_ensured hexclusion (.root, request.rootId) request.rootId tenant
  cases hexcl : request.exclusiveRoot with
  | true =>
    obtain ⟨hfree, -, rfl⟩ := h.exclusive hexcl
    exact exclusion_taken_root hensured hfree
  | false =>
    obtain ⟨root, hroot, hfree, -⟩ := h.root_free
    obtain ⟨⟨source, hsrc, hrootId, -⟩, rfl⟩ := h.ordinary hexcl
    refine exclusion_taken_source (exclusion_ensured hensured _ _ _) hsrc ?_ hfree
    rw [hrootId]
    exact ensured_of_some hroot

/-! ## The Root of a source -/

/-- The source fence of every operation that has one belongs to the Root of the operation. -/
def Rooted (L : Ledger) : Prop :=
  ∀ id op, L.operations id = some op → op.request.exclusiveRoot = false →
    ∃ source, L.fences (.source, op.request.sourceId) = some source ∧
      source.rootId = op.request.rootId

private theorem rooted_step (hrooted : L.Rooted) (sound : L.Sound) (h : Step L event L') :
    L'.Rooted := by
  -- the fence of an operation that was admitted before stays
  have hold : ∀ id op, L.operations id = some op → op.request.exclusiveRoot = false →
      ∃ source, L'.fences (.source, op.request.sourceId) = some source ∧
        source.rootId = op.request.rootId := by
    intro id op hop hord
    obtain ⟨source, hsrc, hroot⟩ := hrooted id op hop hord
    obtain ⟨source', hsrc', hroot', -⟩ := h.fence_stays hsrc
    exact ⟨source', hsrc', hroot'.trans hroot⟩
  intro id op' hop' hord
  rcases (h.operations sound).origin hop' with ⟨-, hnew⟩ | ⟨op, hop, hcont, -⟩
  · cases hnew with
    | ordinary _ _ acquires => exact acquires.rooted hord
    | host _ _ _ rooted => exact rooted
    | @cleanup _ _ parent runs => exact hold _ parent runs.stored hord
  · rw [hcont.request] at hord ⊢
    exact hold id op hop hord

private theorem exclusion_step (hexclusion : Exclusion L.fences) (hrooted : L.Rooted)
    (sound : L.Sound) (h : Step L event L') : Exclusion L'.fences := by
  cases h with
  | admitNew _ _ _ _ _ acquires | admitExisting _ _ _ _ _ _ _ _ _ acquires =>
    exact acquires.exclusion hexclusion
  | admitHost _ _ _ _ _ _ _ _ _ root_fence root_free source_fence source_root =>
    refine exclusion_taken_source (exclusion_ensured hexclusion _ _ _) source_fence ?_ root_free
    rw [source_root]
    exact ensured_of_some root_fence
  | resumeCleanup _ journal _ _ root_fence root_free source_fence _ stored =>
    -- the source of the resumed operation is still one of its Root
    have hreq := (sound.journal_of journal.stored stored).request
    obtain ⟨source, hsrc, hroot⟩ := hrooted _ _ stored (by rw [hreq]; rfl)
    rw [hreq] at hsrc hroot
    refine exclusion_taken_source hexclusion hsrc ?_ root_free
    rw [hroot]
    exact root_fence
  | publish | settleTurn | finishCompensation | release | settleHost | suspendCleanup =>
    exact exclusion_released hexclusion _
  | _ => exact hexclusion

/-! ## Held fences -/

/-- The fence an operation is admitted with: its Root's when it is exclusive, else its
source's. -/
def fenceOf (request : JointPrepareRequest) : FenceKind × String :=
  if request.exclusiveRoot then (.root, request.rootId) else (.source, request.sourceId)

/-- `id` holds the fence. -/
def Holds (fences : FenceKind × String → Option FenceRow) (key : FenceKind × String)
    (id : String) : Prop :=
  ∃ fence, fences key = some fence ∧ fence.holder = some id

section Holds

variable {key k : FenceKind × String} {id id' : String} {free : FenceRow}

/-- A fence has one holder. -/
theorem Holds.unique (h : Holds fences key id) (h' : Holds fences key id') : id = id' := by
  obtain ⟨fence, hfence, hholder⟩ := h
  obtain ⟨fence', hfence', hholder'⟩ := h'
  cases hfence.symm.trans hfence'
  exact Option.mem_unique hholder hholder'

/-- Only a free fence is taken. -/
theorem Holds.taken (h : Holds fences key id)
    (hk : fences k = some free) (hfree : free.holder = none) :
    Holds (taken fences k id') key id := by
  obtain ⟨fence, hfence, hholder⟩ := h
  have hne : key ≠ k := by
    rintro rfl
    rw [Option.mem_unique hfence hk, hfree] at hholder
    exact absurd hholder (by simp)
  exact ⟨fence, by simp [Ledger.taken, hfence, hne], hholder⟩

/-- An operation gives up only its own fences, and all of them. -/
theorem holds_released_iff :
    Holds (released fences id') key id ↔ Holds fences key id ∧ id ≠ id' := by
  constructor
  · rintro ⟨fence, hfence, hholder⟩
    obtain ⟨old, hold, rfl⟩ := Option.map_eq_some_iff.1 hfence
    split at hholder
    · exact absurd hholder (by simp)
    · rename_i hother
      exact ⟨⟨old, hold, hholder⟩, fun heq => hother (heq ▸ hholder)⟩
  · rintro ⟨⟨fence, hfence, hholder⟩, hne⟩
    refine ⟨fence, ?_, hholder⟩
    simp [Ledger.released, hfence, hholder, hne]

/-- The fences that `id` holds are the same, with their epochs. -/
def Keeps (fences fences' : FenceKind × String → Option FenceRow) (id : String) : Prop :=
  ∀ key fence, fence.holder = some id → (fences' key = some fence ↔ fences key = some fence)

theorem Keeps.refl (fences id) :
    Keeps fences fences id :=
  fun _ _ _ => Iff.rfl

theorem Keeps.trans {fences''}
    (h : Keeps fences fences' id) (h' : Keeps fences' fences'' id) : Keeps fences fences'' id :=
  fun key fence hholder => (h' key fence hholder).trans (h key fence hholder)

theorem keeps_released (hne : id ≠ id') : Keeps fences (released fences id') id := by
  intro key fence hholder
  constructor
  · intro hfence
    obtain ⟨old, hold, rfl⟩ := Option.map_eq_some_iff.1 hfence
    split at hholder
    · exact absurd hholder (by simp)
    · rename_i hother
      rw [if_neg hother]
      exact hold
  · intro hfence
    simp [released, hfence, hholder, hne]

theorem keeps_ensured (rootId tenant) :
    Keeps fences (ensured fences k rootId tenant) id := by
  intro key fence hholder
  refine ⟨fun hfence => ?_, ensured_of_some⟩
  cases hold : fences key with
  | some old => simpa [ensured, hold] using hfence
  | none =>
    -- a fence that was just made is free
    by_cases hkey : key = k
    · subst hkey
      simp only [ensured, hold, Option.none_or, if_true, Option.some.injEq] at hfence
      rw [← hfence] at hholder
      exact absurd hholder (by simp)
    · simp [ensured, hold, hkey] at hfence

theorem keeps_taken (hk : fences k = some free) (hfree : free.holder = none)
    (hne : id ≠ id') : Keeps fences (taken fences k id') id := by
  intro key fence hholder
  by_cases hkey : key = k
  · subst hkey
    rw [taken_self hk]
    constructor <;> intro hfence
    · rw [← Option.some.inj hfence] at hholder
      exact absurd (Option.some.inj hholder).symm hne
    · rw [Option.mem_unique hk hfence, hholder] at hfree
      exact absurd hfree (by simp)
  · cases hold : fences key <;> simp [taken, hold, hkey]

/-- An admission changes nobody else's fences. -/
theorem Acquires.keeps (hacq : Acquires fences request id' tenant rootEpoch sourceEpoch fences')
    (hne : id ≠ id') : Keeps fences fences' id := by
  cases hexcl : request.exclusiveRoot with
  | true =>
    obtain ⟨root, hroot, hfree, -⟩ := hacq.root_free
    rw [(hacq.exclusive hexcl).2.2]
    exact (keeps_ensured _ _).trans (keeps_taken hroot hfree hne)
  | false =>
    obtain ⟨⟨source, hsrc, -, hfree, -⟩, rfl⟩ := hacq.ordinary hexcl
    exact (keeps_ensured _ _).trans ((keeps_ensured _ _).trans (keeps_taken hsrc hfree hne))

theorem Keeps.holds_iff (h : Keeps fences fences' id) : Holds fences' key id ↔
    Holds fences key id :=
  exists_congr fun fence => and_congr_left fun hholder => h key fence hholder

end Holds

theorem Settled.quiet {id} (h : L.Settled id) : L.Quiet id := by
  intro name row outcome hrow hout
  obtain ⟨outcome', hout', hterm⟩ := h name row hrow
  rw [Option.mem_unique hout hout']
  exact hterm

/-- **Held fences stay held**: an operation gives up its fence only when no native step of it
has an outcome that is not terminal, in a step that writes no native step. -/
theorem Step.holds_stays (h : Step L event L') (hagree : L.JournalsAgree)
    {key id} (hop : L.operations id = some op) (hholds : Holds L.fences key id) :
    Holds L'.fences key id ∨ (L.Quiet id ∧ L'.steps = L.steps) := by
  have hrel : ∀ {id' : String}, L.Quiet id' → L'.steps = L.steps →
      L'.fences = released L.fences id' →
      Holds L'.fences key id ∨ (L.Quiet id ∧ L'.steps = L.steps) := by
    intro id' hquiet hsteps hfences
    by_cases hid : id = id'
    · exact .inr ⟨hid ▸ hquiet, hsteps⟩
    · rw [hfences]
      exact .inl (holds_released_iff.2 ⟨hholds, hid⟩)
  have hfresh : ∀ {id' : String}, L.operations id' = none → id ≠ id' := by
    intro id' hnone hid
    cases (hid ▸ hnone).symm.trans hop
  cases h with
  | admitNew _ _ fresh _ _ acquires | admitExisting _ _ fresh _ _ _ _ _ _ acquires =>
    exact .inl ((acquires.keeps (hfresh fresh)).holds_iff.2 hholds)
  | admitHost _ _ _ fresh _ _ _ _ _ _ _ source_fence _ source_free =>
    exact .inl (((keeps_ensured _ _).trans
      (keeps_taken source_fence source_free (hfresh fresh))).holds_iff.2 hholds)
  | resumeCleanup _ _ _ _ _ _ source_fence source_free =>
    exact .inl (hholds.taken source_fence source_free)
  | publish _ _ _ _ completed =>
    refine hrel (Settled.quiet fun name row hrow => ?_) rfl rfl
    obtain ⟨outcome, hout, hstate⟩ := completed name row hrow
    exact ⟨outcome, hout, by simp [hstate, NativeOperationState.isTerminal]⟩
  | settleTurn _ _ settled | finishCompensation _ _ _ _ _ settled | release _ _ _ _ settled =>
    exact hrel settled.quiet rfl rfl
  | settleHost _ _ _ _ journal _ _ quiet =>
    exact hrel ((hagree _ _ journal.stored).quiet quiet) rfl rfl
  | suspendCleanup _ runs settled =>
    exact hrel ((hagree _ _ runs.journal.stored).quiet (.inl settled)) rfl rfl
  | _ => exact .inl hholds

/-- An operation that runs holds its fence. -/
theorem Runs.holds {admission} (runs : L.Runs admission op) (sound : L.Sound) :
    Holds L.fences (fenceOf op.request) admission.intentId := by
  cases hexcl : op.request.exclusiveRoot with
  | true =>
    obtain ⟨fence, hfence, -, hholder⟩ := runs.fenced.root
    exact ⟨fence, by simp [fenceOf, hexcl, hfence], by simpa [hexcl] using hholder⟩
  | false =>
    have hepoch : admission.sourceEpoch ≠ none := by
      rw [← runs.token, Ne, (sound.identified _ _ runs.stored).epoch, hexcl]
      exact Bool.noConfusion
    obtain ⟨epoch, hepoch⟩ := Option.ne_none_iff_exists'.1 hepoch
    obtain ⟨fence, hfence, -, hholder⟩ := runs.fenced.source epoch hepoch
    exact ⟨fence, by simp [fenceOf, hexcl, hfence], hholder⟩

/-- A native step whose outcome is known not to be terminal. -/
def Unresolved (L : Ledger) (id : String) : Prop :=
  ∃ name row outcome, L.steps (id, name) = some row ∧ row.outcome = some outcome ∧
    outcome.state.isTerminal = false

theorem Quiet.not_unresolved {id} (h : L.Quiet id) : ¬ L.Unresolved id := by
  rintro ⟨name, row, outcome, hrow, hout, hopen⟩
  rw [h name row outcome hrow hout] at hopen
  exact Bool.noConfusion hopen

/-- Every operation with an unresolved native step holds its fence. -/
def Held (L : Ledger) : Prop :=
  ∀ id, L.Unresolved id → ∃ op, L.operations id = some op ∧ Holds L.fences (fenceOf op.request) id

private theorem held_step (hheld : L.Held) (hagree : L.JournalsAgree) (sound : L.Sound)
    (h : Step L event L') : L'.Held := by
  intro id hunres
  obtain ⟨name, row', outcome, hrow', hout, hopen⟩ := hunres
  have hholds : ∃ op, L.operations id = some op ∧ Holds L.fences (fenceOf op.request) id := by
    rcases h.steps.origin hrow' with ⟨-, hnew⟩ | ⟨row, hrow, hmove⟩
    · cases hnew.unsent.symm.trans hout
    · rcases hmove.works with rfl | works
      · exact hheld id ⟨name, row', outcome, hrow, hout, hopen⟩
      · cases works with
        | running runs intent =>
          subst intent
          exact ⟨_, runs.stored, runs.holds sound⟩
        | admitted fresh =>
          obtain ⟨op, hop⟩ := sound.step_owner id name row hrow
          cases fresh.symm.trans hop
  obtain ⟨op, hop, hfence⟩ := hholds
  obtain ⟨op', hop', hcont, -⟩ := (h.operations sound).stays hop
  rcases h.holds_stays hagree hop hfence with hfence' | ⟨hquiet, hsteps⟩
  · exact ⟨op', hop', hcont.request ▸ hfence'⟩
  · -- it would have given up its fence with this native step unresolved
    exact absurd ⟨name, row', outcome, hsteps ▸ hrow', hout, hopen⟩ hquiet.not_unresolved

/-- **Fencing**: what the fences guarantee. -/
structure Guarded (L : Ledger) : Prop where
  sound : L.Sound
  journals : L.JournalsAgree
  rooted : L.Rooted
  exclusion : Exclusion L.fences
  held : L.Held

theorem Guarded.empty : Guarded Ledger.empty where
  sound := .empty
  journals := .empty
  rooted := by simp [Rooted, Ledger.empty]
  exclusion := by simp [Exclusion, Ledger.empty]
  held := by simp [Held, Unresolved, Ledger.empty]

theorem Guarded.step (hguard : L.Guarded) (h : Step L event L') : L'.Guarded where
  sound := hguard.sound.step h
  journals := hguard.journals.step hguard.sound h
  rooted := rooted_step hguard.rooted hguard.sound h
  exclusion := exclusion_step hguard.exclusion hguard.rooted hguard.sound h
  held := held_step hguard.held hguard.journals hguard.sound h

theorem Reached.guarded (h : L.Reached) : L.Guarded :=
  Reachable.invariant Guarded.empty (fun _ _ _ hguard hstep => hguard.step hstep) h

/-! ## Unresolved native steps block admissions -/

/-- The request is on the source of an operation: on the same source of the same Root, or on
the source fence both are admitted with. -/
def SameSource (request request' : JointPrepareRequest) : Prop :=
  request'.sourceId = request.sourceId ∧ (request'.rootId = request.rootId ∨
    (request.exclusiveRoot = false ∧ request'.exclusiveRoot = false))

private theorem SameSource.root_eq (h : SameSource request request')
    (hexcl : request.exclusiveRoot = true ∨ request'.exclusiveRoot = true) :
    request'.rootId = request.rootId := by
  rcases h.2 with hroot | ⟨hord, hord'⟩
  · exact hroot
  · simp [hord, hord'] at hexcl

private theorem FreeFor.not_sameSource {id}
    (hfree : FreeFor fences request') (hholds : Holds fences (fenceOf request) id)
    (hrooted : request.exclusiveRoot = false →
      ∃ source, fences (.source, request.sourceId) = some source ∧
        source.rootId = request.rootId) : ¬ SameSource request request' := by
  intro hsame
  obtain ⟨fence, hfence, hholder⟩ := hholds
  suffices hnone : fence.holder = none by simp [hnone] at hholder
  cases hexcl : request.exclusiveRoot with
  | true =>
    simp only [fenceOf, hexcl, if_true] at hfence
    rw [← hsame.root_eq (.inl hexcl)] at hfence
    exact hfree.root fence hfence
  | false =>
    simp only [fenceOf, hexcl, Bool.false_eq_true, if_false] at hfence
    cases hexcl' : request'.exclusiveRoot with
    | true =>
      obtain ⟨source, hsrc, hroot⟩ := hrooted hexcl
      cases hfence.symm.trans hsrc
      refine hfree.sources hexcl' _ _ hfence ?_
      rw [hroot, hsame.root_eq (.inr hexcl')]
    | false =>
      rw [← hsame.1] at hfence
      exact hfree.source hexcl' fence hfence

/-- Two operations on one source do not both hold their fences. -/
private theorem eq_of_runs {access h} (runs : L.RunsHost access h op) (sound : L.Sound) {id}
    (hholds : Holds L.fences (fenceOf request) id) (hsame : SameSource request op.request) :
    id = access.admission.intentId := by
  have hord : op.request.exclusiveRoot = false := by
    rw [(sound.journal_of runs.journal.stored runs.stored).request]
    rfl
  obtain ⟨fence, hfence, hholder⟩ := hholds
  cases hexcl : request.exclusiveRoot with
  | true =>
    obtain ⟨root, hroot, -, hfree⟩ := runs.fenced.root
    simp only [fenceOf, hexcl, if_true, ← hsame.root_eq (.inl hexcl), hroot,
      Option.some.injEq] at hfence
    simp [← hfence, hfree, hord] at hholder
  | false =>
    obtain ⟨fence', hfence', hholder'⟩ := runs.toRuns.holds sound
    simp only [fenceOf, hexcl, hord, Bool.false_eq_true, if_false, hsame.1]
      at hfence hfence'
    rw [Option.mem_unique hfence hfence', hholder', Option.some.injEq] at hholder
    exact hholder.symm

/-- **Unresolved native steps block**: while a native step of an operation is unresolved,
nothing is admitted on the source of the operation. -/
theorem Guarded.blocks (hguard : L.Guarded) (h : Step L event L') {id id' op'}
    (hunres : L.Unresolved id) (hop : L.operations id = some op)
    (hnone : L.operations id' = none) (hop' : L'.operations id' = some op') :
    ¬ SameSource op.request op'.request := by
  obtain ⟨op₀, hop₀, hholds⟩ := hguard.held id hunres
  cases hop.symm.trans hop₀
  have hrooted := hguard.rooted id op hop
  cases (h.operations hguard.sound).new hnone hop' with
  | ordinary _ _ acquires => exact acquires.freeFor.not_sameSource hholds hrooted
  | host _ _ free => exact free.not_sameSource hholds hrooted
  | cleanup runs settled =>
    -- the child runs under the fence of a settled operation, so that is the one that holds it
    intro hsame
    obtain rfl := eq_of_runs runs hguard.sound hholds hsame
    exact ((hguard.journals _ _ runs.journal.stored).quiet (.inl settled)).not_unresolved
      hunres

end XGovernor.Joint.Ledger

namespace XGovernor.Joint

open Domain Lib Ledger

/-! ## Fencing of the store -/

/-- **Joint store fencing**: in every database that committed transactions lead to, a Root
whose fence is held has no held source, and the operation of a native step whose outcome is
not terminal holds its fence, so that no transaction admits an operation on its source. -/
theorem fencing_of_storeReachable {config : StoreConfig} {s : Db}
    (h : StoreReachable config s) :
    (∀ rootId root, s.fences.get? (.root, rootId) = some root → root.holder ≠ none →
      ∀ sourceId source, s.fences.get? (.source, sourceId) = some source →
        source.rootId = rootId → source.holder = none) ∧
    ∀ id name row outcome, s.steps.get? (id, name) = some row → row.outcome = some outcome →
      outcome.state.isTerminal = false →
      ∃ op fence, s.operations.get? id = some op ∧
        s.fences.get? (fenceOf op.request) = some fence ∧ fence.holder = some id ∧
        ∀ event s' id' op', Commit config s event s' → s.operations.get? id' = none →
          s'.operations.get? id' = some op' → ¬ SameSource op.request op'.request := by
  have hguard := (ledger_reached h).guarded
  refine ⟨hguard.exclusion, fun id name row outcome hrow hout hopen => ?_⟩
  have hunres : s.ledger.Unresolved id := ⟨name, row, outcome, hrow, hout, hopen⟩
  obtain ⟨op, hop, fence, hfence, hholder⟩ := hguard.held id hunres
  refine ⟨op, fence, hop, hfence, hholder, fun event s' id' op' hcom hnone hop' => ?_⟩
  exact hguard.blocks (commit_refines hcom) hunres hop hnone hop'

/-- A native step that was sent and not answered: its operation holds its source. -/
theorem fencing_of_sent :
    let s := execAll smallConfig
      [.prepareJointOperation openRequest, .claimJointNativeSend openAdmission "create"] Db.empty
    (s.steps.get? ("open", "create")).any (fun row => row.outcome = some sentUnknown) = true ∧
    ∃ op fence, s.operations.get? "open" = some op ∧
      s.fences.get? (fenceOf op.request) = some fence ∧ fence.holder = some "open" := by
  intro s
  have hsent : (s.steps.get? ("open", "create")).any
      (fun row => row.outcome = some sentUnknown) = true := by
    decide +kernel
  obtain ⟨row, hrow, hout⟩ := (Option.any_eq_true _ _).1 hsent
  obtain ⟨op, fence, hop, hfence, hholder, -⟩ :=
    (fencing_of_storeReachable (storeReachable_execAll smallConfig _)).2 "open" "create" row
      sentUnknown hrow (of_decide_eq_true hout) rfl
  exact ⟨hsent, op, fence, hop, hfence, hholder⟩

end XGovernor.Joint
