import XGovernor.Lib.Tally
import XGovernor.Manager.Places

/-!
# What the quota counts

Every place that the quota counts belongs to a registered instance or to a call that has reserved
it, and every instance id that is in use belongs to a registry entry or to a call that is about to
register it.  A call under the lock of a runtime changes nothing but what belongs to it and to the
entry of that runtime, so one lemma (`Accounted.move`) covers all its effects.
-/

namespace XGovernor.Manager

open Lib Function

/-! ## Who holds what -/

/-- The id of the instance that is registered for a runtime. -/
def State.instanceAt (m : State) (runtimeId : String) : Option String :=
  (m.instances runtimeId).map (·.instance_.instanceId)

/-- The owner that the instance registered for a runtime is counted for. -/
def State.ownerAt (m : State) (runtimeId : String) : Option String :=
  (m.instanceAt runtimeId).bind m.ownersByInstance

/-- **The counters are exact**: every owner's count is the number of its registered instances, the
total is the sum of the counts, and the tracked ids are those of the registered instances, which
are all different. -/
structure State.Exact (m : State) : Prop where
  finite : FiniteSupport m.ownerAt
  counts : ∀ owner, m.counts owner = tally m.ownerAt owner
  total : Totals m.counts m.total
  tracked : ∀ id, m.ownersByInstance id ≠ none ↔ ∃ runtimeId, m.instanceAt runtimeId = some id
  distinct : ∀ runtimeId runtimeId' id, m.instanceAt runtimeId = some id →
    m.instanceAt runtimeId' = some id → runtimeId = runtimeId'

theorem State.exact_init : State.init.Exact where
  finite := finiteSupport_none
  counts := fun owner => (tally_none owner).symm
  total := ⟨∅, fun _ _ => rfl, rfl⟩
  tracked := fun _ => ⟨fun h => (h rfl).elim, nofun⟩
  distinct := nofun

/-- The owners of all places in use: those of registered instances and those of calls. -/
def slots (m : State) (φ : Nat → Place) : String ⊕ Nat → Option String :=
  Sum.elim m.ownerAt fun i => (φ i).bind (·.2.reservation)

/-- The instance ids in use: those that are registered and those that a call has in hand. -/
def holders (m : State) (φ : Nat → Place) : String ⊕ Nat → Option String :=
  Sum.elim m.instanceAt fun i => (φ i).bind (·.2.newInstance)

/-- What the manager's state looks like to a call that has come as far as this stage. -/
def Stage.Fits (m : State) (runtimeId : String) : Stage → Prop
  | clear => True
  | vacant | reserved _ => m.instanceAt runtimeId = none
  | obtained _ id | recorded _ id =>
    m.instanceAt runtimeId = none ∧ m.ownersByInstance id = none
  | tracked owner id => m.instanceAt runtimeId = none ∧ m.ownersByInstance id = some owner
  | found id => m.instanceAt runtimeId = some id ∧ m.ownersByInstance id ≠ none
  | released id => m.instanceAt runtimeId = some id ∧ m.ownersByInstance id = none

variable {id : String}

/-- An instance in hand is not the registered one. -/
theorem Stage.Fits.apart {m : State} {runtimeId : String} {stage : Stage}
    (h : stage.Fits m runtimeId) (hentry : m.instanceAt runtimeId = some id) :
    stage.newInstance ≠ some id := by
  intro hnew
  cases stage with
  | obtained _ _ | recorded _ _ | tracked _ _ => exact nomatch h.1.symm.trans hentry
  | _ => cases hnew

/-- The counters while calls are in flight; `known` are the ids that the provider has handed out. -/
structure Accounted (m : State) (known : List String) (φ : Nat → Place) : Prop where
  /-- No two calls are under the same lock. -/
  alone : ∀ i j runtimeId stage stage', φ i = some (runtimeId, stage) →
    φ j = some (runtimeId, stage') → i = j
  fits : ∀ i runtimeId stage, φ i = some (runtimeId, stage) → stage.Fits m runtimeId
  distinct : ∀ k k' id, holders m φ k = some id → holders m φ k' = some id → k = k'
  issued : ∀ k id, holders m φ k = some id → id ∈ known
  tracked : ∀ id, m.ownersByInstance id ≠ none → ∃ k, holders m φ k = some id
  untracked : ∀ runtimeId id, m.instanceAt runtimeId = some id →
    m.ownersByInstance id = none → ∃ i, φ i = some (runtimeId, .released id)
  finite : FiniteSupport (slots m φ)
  counts : ∀ owner, m.counts owner = tally (slots m φ) owner
  total : Totals m.counts m.total

/-! ## One call moves -/

/-- The ids that belong to a call under the lock of a runtime, or to the runtime's entry. -/
def Ours (m : State) (runtimeId : String) (stage : Stage) (id : String) : Prop :=
  m.instanceAt runtimeId = some id ∨ stage.newInstance = some id

/-- A change of the state by a call under the lock of `runtimeId` that goes on from one stage to
another. -/
structure Moves (m m' : State) (known known' : List String) (φ : Nat → Place)
    (runtimeId : String) (stage stage' : Stage) : Prop where
  registry : ∀ key, key ≠ runtimeId → m'.instanceAt key = m.instanceAt key
  owners : ∀ id, ¬ Ours m runtimeId stage id → m'.ownersByInstance id = m.ownersByInstance id
  fits : stage'.Fits m' runtimeId
  ids : ∀ id, Ours m' runtimeId stage' id →
    Ours m runtimeId stage id ∨ id ∈ known' ∧ ∀ k, holders m φ k ≠ some id
  known : known ⊆ known'
  kept : ∀ id, Ours m runtimeId stage id → m'.ownersByInstance id ≠ none →
    Ours m' runtimeId stage' id
  untracked : ∀ id, m'.instanceAt runtimeId = some id →
    m'.ownersByInstance id = none → stage' = .released id
  counts : ∀ owner,
    m'.counts owner + occurs (m.ownerAt runtimeId) owner + occurs stage.reservation owner =
      m.counts owner + occurs (m'.ownerAt runtimeId) owner + occurs stage'.reservation owner
  total : Totals m.counts m.total → Totals m'.counts m'.total

section Move

variable {m m' : State} {known known' : List String} {φ : Nat → Place} {i : Nat}
  {runtimeId : String} {stage stage' : Stage} {k : String ⊕ Nat}

/-- The places in use after a move differ at the runtime and at the call. -/
private theorem slots_move (φ i stage')
    (hregy : ∀ key, key ≠ runtimeId → m'.ownerAt key = m.ownerAt key) :
    slots m' (update φ i (some (runtimeId, stage'))) =
      update
        (update (slots m φ) (.inl runtimeId) (m'.ownerAt runtimeId))
        (.inr i) stage'.reservation := by
  funext k
  rcases k with key | j
  · rw [update_of_ne (by simp)]
    by_cases hkey : key = runtimeId
    · subst hkey
      rw [update_self]
      rfl
    · rw [update_of_ne (by simpa using hkey)]
      exact hregy key hkey
  · by_cases hj : j = i
    · subst hj
      rw [update_self, slots, Sum.elim_inr, update_self]
      rfl
    · rw [update_of_ne (by simpa using hj), update_of_ne (by simp), slots, slots,
        Sum.elim_inr, Sum.elim_inr, update_of_ne hj]

/-- The ids that others hold are as before. -/
private theorem holders_of_ne
    (hregy : ∀ key, key ≠ runtimeId → m'.instanceAt key = m.instanceAt key)
    (hkey : k ≠ .inl runtimeId) (hcall : k ≠ .inr i) :
    holders m' (update φ i (some (runtimeId, stage'))) k = holders m φ k := by
  rcases k with key | j
  · exact hregy key fun h => hkey (congrArg _ h)
  · have hj : j ≠ i := fun h => hcall (congrArg _ h)
    simp [holders, hj]

private theorem ours_iff_holders (hi : φ i = some (runtimeId, stage)) :
    Ours m runtimeId stage id ↔
      holders m φ (.inl runtimeId) = some id ∨ holders m φ (.inr i) = some id := by
  simp [Ours, holders, hi]

/-- After a move every holder is one of ours, or holds what it held before. -/
private theorem Moves.holder_cases (hmove : Moves m m' known known' φ runtimeId stage stage')
    (hk : holders m' (update φ i (some (runtimeId, stage'))) k = some id) :
    Ours m' runtimeId stage' id ∧ (k = .inl runtimeId ∨ k = .inr i) ∨
      holders m φ k = some id ∧ k ≠ .inl runtimeId ∧ k ≠ .inr i := by
  by_cases hkey : k = .inl runtimeId
  · exact .inl ⟨(ours_iff_holders (update_self ..)).mpr (.inl (hkey ▸ hk)), .inl hkey⟩
  by_cases hcall : k = .inr i
  · exact .inl ⟨(ours_iff_holders (update_self ..)).mpr (.inr (hcall ▸ hk)), .inr hcall⟩
  · exact .inr ⟨(holders_of_ne hmove.registry hkey hcall).symm.trans hk, hkey, hcall⟩

section

variable (h : Accounted m known φ)
include h

/-- Nobody else holds an id that is ours. -/
private theorem Accounted.not_ours (hi : φ i = some (runtimeId, stage))
    (hkey : k ≠ .inl runtimeId) (hcall : k ≠ .inr i)
    (hk : holders m φ k = some id) : ¬ Ours m runtimeId stage id := by
  rw [ours_iff_holders hi]
  rintro (hours | hours)
  · exact hkey (h.distinct _ _ _ hk hours)
  · exact hcall (h.distinct _ _ _ hk hours)

section

variable (hi : φ i = some (runtimeId, stage))
  (hmove : Moves m m' known known' φ runtimeId stage stage')
include hi hmove

/-- The stage of another call fits as before. -/
private theorem Accounted.fits_other {j} (hj : j ≠ i) {key other}
    (hother : φ j = some (key, other)) : other.Fits m' key := by
  have hkey : key ≠ runtimeId := by
    rintro rfl
    exact hj (h.alone _ _ _ _ _ hother hi)
  have hfits := h.fits j key other hother
  -- what a stage speaks of is the entry of its runtime and the id that it holds
  have hentry := hmove.registry key hkey
  have hreg {id : String} (hid : m.instanceAt key = some id) :
      m'.ownersByInstance id = m.ownersByInstance id :=
    hmove.owners id (h.not_ours hi (by simpa using hkey) (by simp) (k := .inl key) hid)
  have hnew {id : String} (hid : other.newInstance = some id) :
      m'.ownersByInstance id = m.ownersByInstance id := by
    refine hmove.owners id (h.not_ours hi (by simp) (by simpa using hj) (k := .inr j) ?_)
    simpa [holders, hother] using hid
  cases other with
  | clear => trivial
  | vacant | reserved _ => exact hentry.trans hfits
  | obtained _ id | recorded _ id | tracked _ id =>
    exact ⟨hentry.trans hfits.1, (hnew rfl).trans hfits.2⟩
  | found id => exact ⟨hentry.trans hfits.1, by rw [hreg hfits.1]; exact hfits.2⟩
  | released id => exact ⟨hentry.trans hfits.1, (hreg hfits.1).trans hfits.2⟩

private theorem Accounted.ownerAt_other {key} (hkey : key ≠ runtimeId) :
    m'.ownerAt key = m.ownerAt key := by
  rw [State.ownerAt, State.ownerAt, hmove.registry key hkey]
  cases hid : m.instanceAt key with
  | none => rfl
  | some id =>
    exact hmove.owners id (h.not_ours hi (by simpa using hkey) (by simp) (k := .inl key) hid)

/-- No two holders have one id.  An id of ours was ours before or was held by nobody. -/
private theorem Accounted.distinct_move {k k'}
    (hk : holders m' (update φ i (some (runtimeId, stage'))) k = some id)
    (hk' : holders m' (update φ i (some (runtimeId, stage'))) k' = some id) : k = k' := by
  have hclash {k : String ⊕ Nat} (hnew : Ours m' runtimeId stage' id)
      (hk : holders m φ k = some id) (hkey : k ≠ .inl runtimeId) (hcall : k ≠ .inr i) : False := by
    rcases hmove.ids id hnew with hold | ⟨-, hfresh⟩
    · exact h.not_ours hi hkey hcall hk hold
    · exact hfresh k hk
  -- the entry and the call itself do not share an id, whatever the stage
  have hapart (hentry : m'.instanceAt runtimeId = some id)
      (hcall : holders m' (update φ i (some (runtimeId, stage'))) (.inr i) = some id) : False := by
    refine hmove.fits.apart hentry ?_
    simpa [holders] using hcall
  rcases hmove.holder_cases hk with ⟨hnew, hwhere⟩ | ⟨hold, hkey, hcall⟩ <;>
    rcases hmove.holder_cases hk' with ⟨hnew', hwhere'⟩ | ⟨hold', hkey', hcall'⟩
  · rcases hwhere with rfl | rfl <;> rcases hwhere' with rfl | rfl
    · rfl
    · exact (hapart hk hk').elim
    · exact (hapart hk' hk).elim
    · rfl
  · exact (hclash hnew hold' hkey' hcall').elim
  · exact (hclash hnew' hold hkey hcall).elim
  · exact h.distinct k k' id hold hold'

/-- Whoever held a tracked id of somebody else still holds it; one of ours stays ours. -/
private theorem Accounted.tracked_move (hid : m'.ownersByInstance id ≠ none) :
    ∃ k, holders m' (update φ i (some (runtimeId, stage'))) k = some id := by
  by_cases hold : Ours m runtimeId stage id
  · have hself : update φ i (some (runtimeId, stage')) i = some (runtimeId, stage') :=
      update_self ..
    rcases (ours_iff_holders hself).mp (hmove.kept id hold hid) with hk | hk
    · exact ⟨_, hk⟩
    · exact ⟨_, hk⟩
  · rw [hmove.owners id hold] at hid
    obtain ⟨k, hk⟩ := h.tracked id hid
    rw [ours_iff_holders hi, not_or] at hold
    refine ⟨k, (holders_of_ne hmove.registry ?_ ?_).trans hk⟩
    · rintro rfl
      exact hold.1 hk
    · rintro rfl
      exact hold.2 hk

/-- A registered instance that is not tracked is being released by the call at its runtime. -/
private theorem Accounted.untracked_move {key} (hkey : m'.instanceAt key = some id)
    (hid : m'.ownersByInstance id = none) :
    ∃ j, update φ i (some (runtimeId, stage')) j = some (key, .released id) := by
  by_cases hrun : key = runtimeId
  · subst hrun
    exact ⟨i, (update_self ..).trans (by rw [hmove.untracked id hkey hid])⟩
  · rw [hmove.registry key hrun] at hkey
    have howners := hmove.owners id
      (h.not_ours hi (by simpa using hrun) (by simp) (k := .inl key) hkey)
    obtain ⟨j, hj⟩ := h.untracked key id hkey (howners.symm.trans hid)
    have hji : j ≠ i := by
      rintro rfl
      exact hrun (congrArg Prod.fst (Option.mem_unique hj hi))
    exact ⟨j, (update_of_ne hji ..).trans hj⟩

/-- **A move of one call** keeps the books. -/
theorem Accounted.move :
    Accounted m' known' (update φ i (some (runtimeId, stage'))) := by
  have hslots := slots_move φ i stage' fun _ hkey => h.ownerAt_other hi hmove hkey
  refine ⟨?alone, ?fits, fun k k' id => h.distinct_move hi hmove, ?issued,
    fun id => h.tracked_move hi hmove, fun key id => h.untracked_move hi hmove, ?finite, ?counts,
    hmove.total h.total⟩
  case alone =>
    -- the call that moves stays under its lock
    have hplace {j key other} (hj : update φ i (some (runtimeId, stage')) j = some (key, other)) :
        ∃ other', φ j = some (key, other') := by
      rcases update_cases hj with ⟨rfl, ⟨⟩⟩ | ⟨-, hj⟩
      · exact ⟨stage, hi⟩
      · exact ⟨other, hj⟩
    intro j j' key _ _ hj hj'
    obtain ⟨_, hold⟩ := hplace hj
    obtain ⟨_, hold'⟩ := hplace hj'
    exact h.alone _ _ _ _ _ hold hold'
  case fits =>
    intro j key other hj
    rcases update_cases hj with ⟨rfl, ⟨⟩⟩ | ⟨hji, hj⟩
    · exact hmove.fits
    · exact h.fits_other hi hmove hji hj
  case issued =>
    intro k id hk
    rcases hmove.holder_cases hk with ⟨hours, -⟩ | ⟨hold, -⟩
    · rcases hmove.ids id hours with hours | ⟨hnew, -⟩
      · rcases (ours_iff_holders hi).mp hours with hold | hold <;>
          exact hmove.known (h.issued _ id hold)
      · exact hnew
    · exact hmove.known (h.issued k id hold)
  case finite =>
    rw [hslots]
    exact (h.finite.update _ _).update _ _
  case counts =>
    -- two places change their owner, and `counts` says by how much the counter changes
    intro owner
    have hentry := tally_update h.finite (.inl runtimeId) (m'.ownerAt runtimeId) owner
    have hcall := tally_update (h.finite.update (.inl runtimeId) (m'.ownerAt runtimeId))
      (.inr i) stage'.reservation owner
    have hresv : slots m φ (.inr i) = stage.reservation := by simp [slots, hi]
    rw [update_of_ne (by simp), hresv] at hcall
    rw [show slots m φ (.inl runtimeId) = m.ownerAt runtimeId from rfl] at hentry
    have hcnt := hmove.counts owner
    rw [hslots]
    rw [h.counts owner] at hcnt
    omega

end

/-! ## Coming and going -/

/-- A call that has nothing in hand may get or give back a lock. -/
theorem Accounted.seat {place : Place}
    (hold : (φ i).bind (·.2.reservation) = none ∧ (φ i).bind (·.2.newInstance) = none)
    (hnew : place.bind (·.2.reservation) = none ∧ place.bind (·.2.newInstance) = none)
    (halone : ∀ j key stage stage', j ≠ i → place = some (key, stage) → φ j ≠ some (key, stage'))
    (hfits : ∀ key stage, place = some (key, stage) → stage.Fits m key)
    (hrel : ∀ key id, φ i ≠ some (key, .released id)) :
    Accounted m known (update φ i place) := by
  have hkeeps {f : String × Stage → Option String} (hi : (φ i).bind f = none)
      (hplace : place.bind f = none) :
      (fun j => (update φ i place j).bind f) = fun j => (φ j).bind f := by
    funext j
    by_cases hj : j = i
    · subst hj
      rw [update_self, hplace, hi]
    · rw [update_of_ne hj]
  have hslots : slots m (update φ i place) = slots m φ :=
    congrArg (Sum.elim m.ownerAt) (hkeeps hold.1 hnew.1)
  have hholders : holders m (update φ i place) = holders m φ :=
    congrArg (Sum.elim m.instanceAt) (hkeeps hold.2 hnew.2)
  refine ⟨?alone, ?fits, by rw [hholders]; exact h.distinct, by rw [hholders]; exact h.issued,
    by rw [hholders]; exact h.tracked, ?untracked, by rw [hslots]; exact h.finite,
    by rw [hslots]; exact h.counts, h.total⟩
  case alone =>
    intro j j' key stage stage' hj hj'
    rcases update_cases hj with ⟨hji, hj⟩ | ⟨hji, hj⟩ <;>
      rcases update_cases hj' with ⟨hji', hj'⟩ | ⟨hji', hj'⟩
    · exact hji.trans hji'.symm
    · exact (halone j' key stage stage' hji' hj hj').elim
    · exact (halone j key stage' stage hji hj' hj).elim
    · exact h.alone _ _ _ _ _ hj hj'
  case fits =>
    intro j key stage hj
    rcases update_cases hj with ⟨hji, hj⟩ | ⟨hji, hj⟩
    · exact hfits key stage hj
    · exact h.fits j key stage hj
  case untracked =>
    intro key id hkey hid
    obtain ⟨j, hj⟩ := h.untracked key id hkey hid
    have hji : j ≠ i := by
      rintro rfl
      exact hrel key id hj
    exact ⟨j, (update_of_ne hji ..).trans hj⟩

theorem Accounted.lock (hi : φ i = none) (hfree : ∀ j stage, φ j ≠ some (runtimeId, stage)) :
    Accounted m known (update φ i (some (runtimeId, .clear))) := by
  refine h.seat (by simp [hi]) ⟨rfl, rfl⟩ ?_ ?_ (by simp [hi])
  · rintro j _ _ stage' - ⟨⟩
    exact hfree j stage'
  · rintro _ _ ⟨⟩
    trivial

theorem Accounted.unlock (hi : φ i = some (runtimeId, stage))
    (hloose : stage.Loose) : Accounted m known (update φ i none) := by
  refine h.seat ?_ ⟨rfl, rfl⟩ nofun nofun ?_
  · rw [hi]
    cases stage <;> first | exact hloose.elim | exact ⟨rfl, rfl⟩
  · rintro key id hrel
    obtain ⟨-, rfl⟩ := Prod.mk.inj (Option.mem_unique hi hrel)
    exact hloose

end

private theorem tally_slots_idle (hfinite : FiniteSupport m.ownerAt) (owner : String) :
    tally (slots m fun _ => none) owner = tally m.ownerAt owner := by
  have hsum : tally (slots m fun _ => none) owner =
      tally m.ownerAt owner + tally (fun _ : Nat => none) owner :=
    tally_sum_elim hfinite finiteSupport_none owner
  rw [hsum, tally_none, Nat.add_zero]

/-- Exact counters with nobody in flight, all ids of which the provider has handed out. -/
theorem State.Exact.accounted (h : m.Exact)
    (hknown : ∀ key id, m.instanceAt key = some id → id ∈ known) :
    Accounted m known fun _ => none where
  alone := nofun
  fits := nofun
  distinct := by
    rintro (key | _) (key' | _) id hk hk'
    · exact congrArg _ (h.distinct key key' id hk hk')
    all_goals first | cases hk | cases hk'
  issued := by
    rintro (key | _) id hk
    · exact hknown key id hk
    · cases hk
  tracked := by
    intro id hid
    obtain ⟨key, hkey⟩ := (h.tracked id).mp hid
    exact ⟨.inl key, hkey⟩
  untracked := by
    intro key id hkey hid
    exact ((h.tracked id).mpr ⟨key, hkey⟩ hid).elim
  finite := h.finite.elim finiteSupport_none
  counts := by
    intro owner
    rw [h.counts, tally_slots_idle h.finite]
  total := h.total

end Move

end XGovernor.Manager
