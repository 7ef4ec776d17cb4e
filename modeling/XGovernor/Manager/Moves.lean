import XGovernor.Manager.Accounting

/-!
# The moves of a call

What each effect of a call under its lock does to the counters, the registry and the tracked ids.
Together they say that the books are kept in order along every call (`Accounted.perform`), as long
as the provider hands out new ids.
-/

namespace XGovernor.Manager

open Lib Function State

section Fields

variable (m : State) (key id owner : String)

@[simp] theorem State.counted_instanceAt : (m.counted owner).instanceAt key = m.instanceAt key :=
  rfl

@[simp] theorem State.uncounted_instanceAt :
    (m.uncounted owner).instanceAt key = m.instanceAt key := rfl

@[simp] theorem State.tracked_instanceAt :
    (m.tracked id owner).instanceAt key = m.instanceAt key := rfl

@[simp] theorem State.counted_ownerAt : (m.counted owner).ownerAt key = m.ownerAt key := rfl

@[simp] theorem State.uncounted_ownerAt : (m.uncounted owner).ownerAt key = m.ownerAt key := rfl

@[simp] theorem State.releaseInstance_instanceAt :
    (m.releaseInstance id).instanceAt key = m.instanceAt key := by
  simp [instanceAt]

theorem State.registered_instanceAt (bound) (key' : String) :
    (m.registered key bound).instanceAt key' =
      if key' = key then some bound.instance_.instanceId else m.instanceAt key' := by
  by_cases hkey : key' = key <;> simp [registered, instanceAt, hkey]

theorem State.unregistered_instanceAt (key' : String) :
    (m.unregistered key).instanceAt key' = if key' = key then none else m.instanceAt key' := by
  by_cases hkey : key' = key <;> simp [unregistered, instanceAt, hkey]

/-- A tracked instance gives its place back. -/
theorem State.releaseInstance_of_tracked {m : State} {id owner : String}
    (htrack : m.ownersByInstance id = some owner) :
    m.releaseInstance id = { m.uncounted owner with
      ownersByInstance := update m.ownersByInstance id none } := by
  simp [releaseInstance, htrack]

theorem State.releaseInstance_owners_of_ne {m : State} {id id' : String} (hne : id' ≠ id) :
    (m.releaseInstance id).ownersByInstance id' = m.ownersByInstance id' := by
  unfold releaseInstance
  split
  · rfl
  · exact update_of_ne hne ..

end Fields

/-- An entry comes into being by an insertion. -/
theorem handle_instances {config answer m e key bound}
    (hentry : (handle config answer m e).2.instances key = some bound) :
    m.instances key = some bound ∨ e = .insert key bound := by
  cases e with
  | insert key' bound' =>
    rcases update_cases hentry with ⟨rfl, ⟨⟩⟩ | ⟨-, hentry⟩
    · exact .inr rfl
    · exact .inl hentry
  | remove key' =>
    rcases update_cases hentry with ⟨-, ⟨⟩⟩ | ⟨-, hentry⟩
    exact .inl hentry
  | reserve owner limit =>
    replace hentry : (m.reserve config owner limit).2.instances key = some bound := hentry
    rcases m.reserve_cases config owner limit with hgranted | ⟨error, href⟩
    · rw [hgranted] at hentry
      exact .inl hentry
    · rw [href] at hentry
      exact .inl hentry
  | releaseInstance id =>
    exact .inl ((congrFun (m.releaseInstance_instances id) key).symm.trans hentry)
  | rehydrateOne id owner =>
    replace hentry : (m.rehydrateOne id owner).instances key = some bound := hentry
    unfold rehydrateOne at hentry
    split at hentry <;> exact .inl hentry
  | _ => exact .inl hentry

section Counters

variable {m : State} {owner : String}

theorem State.counted_counts (m : State) (owner other : String) :
    (m.counted owner).counts other = m.counts other + occurs (some owner) other := by
  by_cases hother : other = owner
  · subst hother
    simp [counted]
  · simp [counted, hother, occurs_of_ne (Ne.symm hother)]

theorem State.uncounted_counts (hpos : 0 < m.counts owner) (other : String) :
    (m.uncounted owner).counts other + occurs (some owner) other = m.counts other := by
  by_cases hother : other = owner
  · subst hother
    simp [uncounted, Nat.sub_add_cancel hpos]
  · simp [uncounted, hother, occurs_of_ne (Ne.symm hother)]

theorem totals_counted (h : Totals m.counts m.total) (owner) :
    Totals (m.counted owner).counts (m.counted owner).total := by
  apply h.update
  simp only [counted]
  omega

theorem totals_uncounted (h : Totals m.counts m.total) (hpos : 0 < m.counts owner) :
    Totals (m.uncounted owner).counts (m.uncounted owner).total := by
  apply h.update
  have hle := h.le owner
  simp only [uncounted]
  omega

end Counters

/-! ## Stages and moves -/

section Moves

variable {m m' : State} {known known' : List String} {φ : Nat → Place} {i : Nat}
  {runtimeId owner id : String} {stage stage' : Stage}

section

variable (h : Accounted m known φ)
include h

/-- Nothing is tracked under an id that nobody holds. -/
theorem Accounted.owner_of_unheld (hid : ∀ k, holders m φ k ≠ some id) :
    m.ownersByInstance id = none := by
  by_contra htrack
  obtain ⟨k, hk⟩ := h.tracked id htrack
  exact hid k hk

/-- A place that a call has reserved is counted. -/
theorem Accounted.counts_pos_of_reservation
    (hi : φ i = some (runtimeId, stage)) (hresv : stage.reservation = some owner) :
    0 < m.counts owner := by
  rw [h.counts]
  exact h.finite.tally_pos (k := .inr i) (by simp [slots, hi, hresv])

/-- The place of a registered instance is counted. -/
theorem Accounted.counts_pos_of_owner
    (howner : m.ownerAt runtimeId = some owner) : 0 < m.counts owner := by
  rw [h.counts]
  exact h.finite.tally_pos (k := .inl runtimeId) howner

section

variable (hi : φ i = some (runtimeId, stage)) (hstage : ∀ id, stage ≠ .released id)
include hi hstage

/-- The registered instance is tracked, unless the call itself has just released it. -/
theorem Accounted.tracked_of_entry (hentry : m.instanceAt runtimeId = some id) :
    m.ownersByInstance id ≠ none := by
  intro huntr
  obtain ⟨j, hj⟩ := h.untracked runtimeId id hentry huntr
  obtain rfl := h.alone _ _ _ _ _ hj hi
  obtain ⟨-, rfl⟩ := Prod.mk.inj (Option.mem_unique hj hi)
  exact hstage id rfl

/-- An effect that touches neither the registry nor the quota. -/
theorem Accounted.stay (hinst : m'.instances = m.instances)
    (howners : m'.ownersByInstance = m.ownersByInstance) (hcnt : m'.counts = m.counts)
    (htotal : m'.total = m.total) (hreservation : stage'.reservation = stage.reservation)
    (hnew : stage'.newInstance = stage.newInstance) (hfits : stage'.Fits m runtimeId) :
    Accounted m' known (update φ i (some (runtimeId, stage'))) := by
  have hentr : m'.instanceAt = m.instanceAt := by
    funext key
    rw [instanceAt, instanceAt, hinst]
  have hownerAt : m'.ownerAt runtimeId = m.ownerAt runtimeId := by
    rw [ownerAt, ownerAt, hentr, howners]
  -- neither the entry nor what the call has in hand has changed
  have hours (id : String) : Ours m' runtimeId stage' id ↔ Ours m runtimeId stage id := by
    rw [Ours, Ours, hentr, hnew]
  refine h.move hi ⟨fun key _ => congrFun hentr key, fun id _ => congrFun howners id, ?_,
    fun id hid => .inl ((hours id).mp hid), .refl _, fun id hid _ => (hours id).mpr hid, ?_, ?_, ?_⟩
  · cases stage' <;> simp only [Stage.Fits, hentr, howners] <;> exact hfits
  · intro id hentry huntr
    rw [hentr] at hentry
    rw [howners] at huntr
    exact (h.tracked_of_entry hi hstage hentry huntr).elim
  · intro owner
    rw [hcnt, hownerAt, hreservation]
  · rw [hcnt, htotal]
    exact id

end

theorem Accounted.reserve (hi : φ i = some (runtimeId, .vacant)) :
    Accounted (m.counted owner) known
      (update φ i (some (runtimeId, .reserved owner))) := by
  have hentry : m.instanceAt runtimeId = none := h.fits i _ _ hi
  refine h.move hi ⟨fun _ _ => rfl, fun _ _ => rfl, hentry, fun id hid => .inl hid, .refl _,
    fun id hid _ => hid, ?_, ?_, fun htotal => totals_counted htotal owner⟩
  · intro id hid
    exact nomatch hentry.symm.trans hid
  · intro other
    simp only [counted_counts, counted_ownerAt, Stage.reservation, occurs_none]
    omega

/-- The place of a call that has got no instance, or could not bind it, is given back. -/
theorem Accounted.rollback (hi : φ i = some (runtimeId, stage))
    (hstage : stage = .reserved owner ∨ ∃ id, stage = .obtained owner id) :
    Accounted (m.uncounted owner) known (update φ i (some (runtimeId, .clear))) := by
  have hfits := h.fits i _ _ hi
  have hentry : m.instanceAt runtimeId = none := by
    rcases hstage with rfl | ⟨id, rfl⟩
    · exact hfits
    · exact hfits.1
  have hresv : stage.reservation = some owner := by
    rcases hstage with rfl | ⟨id, rfl⟩ <;> rfl
  -- the counter is positive, so taking one off is no saturation
  have hpos := h.counts_pos_of_reservation hi hresv
  have hnothing {id : String} : ¬ Ours (m.uncounted owner) runtimeId .clear id := by
    simp [Ours, hentry, Stage.newInstance]
  refine h.move hi ⟨fun _ _ => rfl, fun _ _ => rfl, trivial, fun id hid => (hnothing hid).elim,
    .refl _, ?_, ?_, ?_, fun htotal => totals_uncounted htotal hpos⟩
  · -- the instance in hand was not tracked yet
    rintro id (hid | hid) htrack
    · cases hentry.symm.trans hid
    · rcases hstage with rfl | ⟨id', rfl⟩
      · cases hid
      · obtain rfl := Option.some.inj hid
        exact (htrack hfits.2).elim
  · intro id hid
    cases hentry.symm.trans hid
  · intro other
    have hcnt := uncounted_counts hpos other
    rw [hresv, uncounted_ownerAt]
    simp only [Stage.reservation, occurs_none]
    omega

/-- A new instance, with an id that nobody holds. -/
theorem Accounted.obtain
    (hi : φ i = some (runtimeId, .reserved owner)) (hid : ∀ k, holders m φ k ≠ some id) :
    Accounted m (id :: known) (update φ i (some (runtimeId, .obtained owner id))) := by
  have hentry : m.instanceAt runtimeId = none := h.fits i _ _ hi
  have hours {id' : String} (hid' : Ours m runtimeId (.obtained owner id) id') : id' = id := by
    rcases hid' with hid' | hid'
    · exact nomatch hentry.symm.trans hid'
    · exact (Option.some.inj hid').symm
  refine h.move hi ⟨fun _ _ => rfl, fun _ _ => rfl, ⟨hentry, h.owner_of_unheld hid⟩, ?_,
    List.subset_cons_self .., ?_, ?_, fun _ => rfl, fun htotal => htotal⟩
  · intro id' hid'
    obtain rfl := hours hid'
    exact .inr ⟨List.mem_cons_self, hid⟩
  · rintro id' (hid' | hid')
    · exact nomatch hentry.symm.trans hid'
    · cases hid'
  · intro id' hid'
    exact nomatch hentry.symm.trans hid'

theorem Accounted.track (hi : φ i = some (runtimeId, .recorded owner id)) :
    Accounted (m.tracked id owner) known
      (update φ i (some (runtimeId, .tracked owner id))) := by
  have hfits := h.fits i _ _ hi
  have hentry : m.instanceAt runtimeId = none := hfits.1
  refine h.move hi ⟨fun _ _ => rfl, ?_, ⟨hentry, update_self ..⟩, fun id' hid' => .inl hid',
    .refl _, fun id' hid' _ => hid', ?_, ?_, fun htotal => htotal⟩
  · intro id' hid'
    refine update_of_ne ?_ ..
    rintro rfl
    exact hid' (.inr rfl)
  · intro id' hid'
    exact nomatch hentry.symm.trans hid'
  · intro other
    simp only [ownerAt, tracked_instanceAt, hentry]
    rfl

/-- The instance is registered, and its place goes with it. -/
theorem Accounted.insert {bound}
    (hi : φ i = some (runtimeId, .tracked owner bound.instance_.instanceId)) :
    Accounted (m.registered runtimeId bound) known
      (update φ i (some (runtimeId, .clear))) := by
  have hfits := h.fits i _ _ hi
  have hentry : m.instanceAt runtimeId = none := hfits.1
  have hnew : (m.registered runtimeId bound).instanceAt runtimeId =
      some bound.instance_.instanceId := by
    rw [registered_instanceAt, if_pos rfl]
  have howner : (m.registered runtimeId bound).ownerAt runtimeId = some owner := by
    rw [ownerAt, hnew]
    exact hfits.2
  have hours {id : String} : Ours (m.registered runtimeId bound) runtimeId .clear id ↔
      Ours m runtimeId (.tracked owner bound.instance_.instanceId) id := by
    rw [Ours, Ours, hnew, hentry]
    simp [Stage.newInstance]
  refine h.move hi ⟨?_, fun _ _ => rfl, trivial, fun id hid => .inl (hours.mp hid), .refl _,
    fun id hid _ => hours.mpr hid, ?_, ?_, fun htotal => htotal⟩
  · intro key hkey
    rw [registered_instanceAt, if_neg hkey]
  · intro id hid huntr
    cases hnew.symm.trans hid
    cases huntr.symm.trans hfits.2
  · intro other
    have hcnt : (m.registered runtimeId bound).counts = m.counts := rfl
    rw [hcnt, howner, ownerAt, hentry]
    simp only [Option.bind_none, Stage.reservation, occurs_none]
    omega

/-- The place of the instance that was found is given back. -/
theorem Accounted.release (hi : φ i = some (runtimeId, .found id)) :
    Accounted (m.releaseInstance id) known
      (update φ i (some (runtimeId, .released id))) := by
  obtain ⟨hentry, htrack⟩ := h.fits i _ _ hi
  obtain ⟨owner, howner⟩ := Option.ne_none_iff_exists'.mp htrack
  have hownerAt : m.ownerAt runtimeId = some owner := by
    rw [ownerAt, hentry]
    exact howner
  have hpos := h.counts_pos_of_owner hownerAt
  rw [releaseInstance_of_tracked howner]
  refine h.move hi ⟨fun _ _ => rfl, ?_, ⟨hentry, update_self ..⟩, fun id' hid' => .inl hid',
    .refl _, fun id' hid' _ => hid', ?_, ?_, fun htotal => totals_uncounted htotal hpos⟩
  · intro id' hid'
    refine update_of_ne ?_ ..
    rintro rfl
    exact hid' (.inl hentry)
  · intro id' hid' _
    rw [Option.mem_unique hentry hid']
  · intro other
    have hcnt := uncounted_counts hpos other
    have hnone : ({ m.uncounted owner with
        ownersByInstance := update m.ownersByInstance id none } : State).ownerAt
          runtimeId = none := by
      exact (congrArg (Option.bind · _) hentry).trans (update_self ..)
    rw [hownerAt, hnone]
    simp only [Stage.reservation, occurs_none]
    omega

/-- The entry of an instance that was released is removed. -/
theorem Accounted.remove (hi : φ i = some (runtimeId, .released id)) :
    Accounted (m.unregistered runtimeId) known
      (update φ i (some (runtimeId, .clear))) := by
  obtain ⟨hentry, huntr⟩ := h.fits i _ _ hi
  have hnone : (m.unregistered runtimeId).instanceAt runtimeId = none := by
    rw [unregistered_instanceAt, if_pos rfl]
  have hnothing {id : String} : ¬ Ours (m.unregistered runtimeId) runtimeId .clear id := by
    simp [Ours, hnone, Stage.newInstance]
  refine h.move hi ⟨?_, fun _ _ => rfl, trivial, fun id' hid' => (hnothing hid').elim,
    .refl _, ?_, ?_, ?_, fun htotal => htotal⟩
  · intro key hkey
    rw [unregistered_instanceAt, if_neg hkey]
  · rintro id' (hid' | hid') htrack
    · rw [← Option.mem_unique hentry hid'] at htrack
      exact (htrack huntr).elim
    · cases hid'
  · intro id' hid'
    cases hnone.symm.trans hid'
  · intro other
    have hcnt : (m.unregistered runtimeId).counts = m.counts := rfl
    rw [hcnt, ownerAt, ownerAt, hnone, hentry]
    simp [huntr, Stage.reservation]

end

end Moves

end XGovernor.Manager
