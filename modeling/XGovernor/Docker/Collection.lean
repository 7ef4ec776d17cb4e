import XGovernor.Docker.Provider
import XGovernor.Lib.RelyGuarantee

/-!
# What the monitor may remove

The monitor works on a list of owned containers that it read before it had the creation lock, so a
container that was returned in between is not on the list.  What protects it is the time in its
journal row.  A creation that makes its container writes the row when it returns; a creation that
finds the container of an earlier attempt does not.
-/

namespace XGovernor.Docker

open Lib Manager Function Prog

/-! ## The property -/

/-- **A fresh container is spared.**  What the monitor is about to remove was not returned by a
creation within the last five minutes. -/
def Spares (pool : ProviderPool) : Move Answer ProviderCall → Prop
  | .perform i _ => ∀ call id onDrop k,
      pool.threads i = some (call, .perform (.remove (.id id)) onDrop k) →
      ∀ time, (id, time) ∈ pool.state.returned → time + 300000 ≤ pool.state.clock
  | _ => True

/-- A creation that returns a container it has found returns one whose journal row is closed, or
was written at that time. -/
def Renewed (pool : ProviderPool) : Move Answer ProviderCall → Prop
  | .perform i ω => ∀ call id onDrop k,
      pool.threads i = some (call, .perform (.respond id) onDrop k) →
      ∀ row, pool.state.journal id.name = some row → row.pending = true →
        pool.state.clock + ω.elapsed ≤ row.updatedMs
  | _ => True

/-! ## Places -/

/-- Where a call is: without the creation lock, with it, or with it and about to remove the
container of that name. -/
inductive Place where
  | outside
  | holding
  | condemned (name : String)
  deriving DecidableEq

def Place.Allows : Place → Effect → Prop
  | .outside, .lockCreation | .outside, .ledgerIds | .outside, .record _ | .outside, .outside _ =>
    True
  | .outside, _ => False
  | .holding, .lockCreation | .holding, .remove (.id _) => False
  | .holding, _ => True
  | .condemned name, .remove (.id id) => id.name = name
  | .condemned _, .unlockCreation | .condemned _, .inspect _ | .condemned _, .controlSet _ _
  | .condemned _, .journalSet _ _ => True
  | .condemned _, _ => False

def Place.next : Place → (e : Effect) → e.Reply → Place
  | _, .lockCreation, _ => .holding
  | _, .unlockCreation, _ => .outside
  | .holding, .abandonedCreate name, true => .condemned name
  | .condemned _, .journalSet _ _, _ => .holding
  | place, _, _ => place

def providerProtocol : Protocol Effect Effect.Reply Place where
  allowed := Place.Allows
  rely := fun _ _ _ _ => True
  next := Place.next
  rely_none := id

/-- The call ends with the lock, and with nothing condemned unless it fails. -/
def Locked {α : Type} (place : Place) : Except ProviderControlError α → Prop
  | .ok _ => place = .holding
  | .error _ => place ≠ .outside

section Follows

variable {α : Type} {p : ProviderM α} {e : Effect}

/-- The effects of a creation. -/
def Effect.creates : Effect → Bool
  | .lockCreation | .unlockCreation | .remove (.id _) | .abandonedCreate _ => false
  | _ => true

theorem Place.allows_of_creates (h : e.creates = true) : Place.Allows .holding e := by
  cases e with
  | lockCreation => cases h
  | remove ref =>
    cases ref with
    | name => trivial
    | id => cases h
  | _ => trivial

theorem Place.next_of_creates (h : e.creates = true) (r : e.Reply) :
    Place.next .holding e r = .holding := by
  cases e with
  | unlockCreation => cases h
  | abandonedCreate => cases h
  | _ => rfl

/-- A program that only creates keeps the lock. -/
theorem follows_of_creates (h : p.Obeys (fun _ _ => True) fun e => e.creates = true) :
    p.Follows providerProtocol (fun place _ => place = .holding) .holding := by
  induction p with
  | ret a => rfl
  | fail error => rfl
  | perform e onDrop k ih =>
    refine ⟨Place.allows_of_creates h.1, fun r _ => ?_⟩
    show (k r).Follows providerProtocol _ (Place.next .holding e r)
    rw [Place.next_of_creates h.1]
    exact ih r (h.2 r trivial)

section Creates

/-- The program only performs effects of a creation. -/
abbrev Creates (p : ProviderM α) : Prop :=
  p.Obeys (fun _ _ => True) fun e => e.creates = true

theorem perform_creates (h : e.creates = true) : Creates (perform e) :=
  ⟨h, fun _ _ => trivial⟩

variable (name : String)

theorem orRemove_creates (result : Except ProviderControlError α) :
    Creates (orRemove name result) := by
  cases result with
  | ok a => trivial
  | error error => exact ⟨rfl, fun _ _ => trivial⟩

theorem ensureRunning_creates (running : Bool) :
    Creates (ensureRunning name running) := by
  unfold ensureRunning
  split
  · trivial
  · exact .bind (perform_creates rfl) fun _ => runs_orFail _

theorem ensureBootstrapped_creates (options) :
    Creates (ensureBootstrapped name options) := by
  unfold ensureBootstrapped
  split
  · refine .bind (perform_creates rfl) fun state => ?_
    split
    · trivial
    · refine .bind (perform_creates rfl) fun _ => ?_
      exact .orFail fun _ => perform_creates rfl
  · trivial

theorem createExisting_creates (request) (requestId name : String) (options value) :
    Creates (createExisting request requestId name options value) := by
  refine .require fun _ => ?_
  refine .orFail fun _ => ?_
  refine .orFail fun _ => ?_
  refine .orFail fun _ => ?_
  refine .require fun _ => ?_
  refine .bind (perform_creates rfl) fun _ => ?_
  refine .require fun _ => ?_
  refine .bind (ensureRunning_creates _ _) fun _ => ?_
  refine .bind (ensureBootstrapped_creates _ _) fun _ => ?_
  refine .bind (perform_creates rfl) fun _ => ?_
  refine .orFail fun _ => ?_
  exact .bind (perform_creates rfl) fun _ => trivial

theorem createNamed_creates (spec) : Creates (createNamed spec) := by
  refine .bind (perform_creates rfl) fun reply => ?_
  split
  · trivial
  · refine .bind (perform_creates rfl) fun found => ?_
    split <;> trivial

theorem bootstrapFresh_creates (options)
    (source : Option String) : Creates (bootstrapFresh name options source) := by
  unfold bootstrapFresh
  split
  · exact .bind (perform_creates rfl) fun _ => orRemove_creates _ _
  · trivial

theorem createFresh_creates (config request)
    (requestId name : String) (options) (source : Option String) :
    Creates (createFresh config request requestId name options source) := by
  refine .bind (perform_creates rfl) fun _ => ?_
  refine .orFail fun _ => ?_
  refine .require fun _ => ?_
  refine .bind (perform_creates rfl) fun _ => ?_
  refine .orFail fun _ => ?_
  refine .bind (perform_creates rfl) fun _ => ?_
  refine .bind (createNamed_creates _) fun _ => ?_
  refine .bind (perform_creates rfl) fun _ => ?_
  refine .bind (orRemove_creates _ _) fun _ => ?_
  refine .bind (perform_creates rfl) fun _ => ?_
  refine .orFail fun _ => ?_
  refine .bind (orRemove_creates _ _) fun _ => ?_
  refine .bind (orRemove_creates _ _) fun _ => ?_
  refine .bind (orRemove_creates _ _) fun _ => ?_
  refine .bind (bootstrapFresh_creates _ _ _) fun _ => ?_
  exact .bind (perform_creates rfl) fun _ => trivial

theorem createContainer_creates (config request)
    (source : Option String) : Creates (createContainer config request source) := by
  refine .require fun _ => ?_
  refine .orFail fun _ => ?_
  refine .bind (perform_creates rfl) fun _ => ?_
  refine .orFail fun _ => ?_
  refine .require fun _ => ?_
  split
  · trivial
  · refine .bind (perform_creates rfl) fun reply => ?_
    split
    · exact createExisting_creates _ _ _ _ _
    · exact createFresh_creates _ _ _ _ _ _
    · trivial

end Creates

/-! ## Programs and places -/

theorem withCreationLock_follows (h : p.Follows providerProtocol Locked .holding) :
    (withCreationLock p).Follows providerProtocol (fun place _ => place = .outside) .outside := by
  refine ⟨trivial, fun _ _ => h.guarded fun place result hlocked => ⟨?_, fun _ _ => rfl⟩⟩
  cases place with
  | outside =>
    cases result with
    | ok => cases hlocked
    | error => exact absurd rfl hlocked
  | holding => trivial
  | condemned name => trivial

theorem createContainer_follows (config request) (source : Option String) :
    (createContainer config request source).Follows providerProtocol Locked .holding := by
  refine (follows_of_creates (createContainer_creates config request source)).mono ?_
  rintro _ result rfl
  cases result with
  | ok => rfl
  | error => nofun

variable (id : ContainerId)

theorem removeInstance_follows :
    (removeInstance id).Follows providerProtocol (fun place _ => place = .condemned id.name)
      (.condemned id.name) := by
  refine ⟨trivial, fun found _ => ?_⟩
  rcases found with error | value
  · cases error <;> rfl
  · refine ⟨rfl, fun removed _ => ?_⟩
    cases removed <;> rfl

theorem deleteInstance_follows :
    (deleteInstance id).Follows providerProtocol (fun place _ => place = .condemned id.name)
      (.condemned id.name) := by
  refine ⟨trivial, fun closing _ => ?_⟩
  cases closing with
  | error error => rfl
  | ok _ =>
    refine (removeInstance_follows id).bind ?_ fun _ _ hplace => hplace
    rintro _ deleted rfl
    refine ⟨trivial, fun closed _ => ?_⟩
    cases closed <;> rfl

/-- An instance is removed only after its creation was found abandoned. -/
theorem collect_follows :
    (collect id).Follows providerProtocol Locked .holding := by
  refine ⟨trivial, fun abandoned _ => ?_⟩
  cases abandoned with
  | false => rfl
  | true =>
    refine (deleteInstance_follows id).bind ?_ ?_
    · rintro _ deleted rfl
      exact ⟨trivial, fun _ _ => rfl⟩
    · rintro _ error rfl
      nofun

theorem sweep_follows (bound instances : List ContainerId) :
    (sweep bound instances).Follows providerProtocol Locked .holding := by
  induction instances with
  | nil => rfl
  | cons id rest ih =>
    unfold sweep
    split
    · exact ih
    · refine (collect_follows id).bind ?_ fun _ _ hplace => hplace
      rintro _ _ rfl
      exact ih

theorem cleanupUnbound_follows (bound : List ContainerId) :
    (cleanupUnbound bound).Follows providerProtocol (fun place _ => place = .outside)
      .outside := by
  refine withCreationLock_follows ⟨trivial, fun instances _ => ?_⟩
  cases instances with
  | error error => nofun
  | ok instances => exact sweep_follows bound instances

theorem body_follows (config : DockerConfig) (call : ProviderCall) :
    (call.body config).Follows providerProtocol (fun place _ => place = .outside) .outside := by
  cases call with
  | create request =>
    exact (withCreationLock_follows (createContainer_follows config request none)).bind
      (fun _ _ hplace => hplace) fun _ _ hplace => hplace
  | load request image =>
    exact (withCreationLock_follows (createContainer_follows config request (some image))).bind
      (fun _ _ hplace => hplace) fun _ _ hplace => hplace
  | cleanup => exact ⟨trivial, fun bound _ => cleanupUnbound_follows bound⟩
  | record id => exact ⟨trivial, fun _ _ => rfl⟩
  | outside change => exact ⟨trivial, fun _ _ => rfl⟩

end Follows

/-! ## Returned containers and their rows -/

/-- Returned containers are protected by their journal rows; those of a condemned name were
returned long ago. -/
structure Protected (d : Daemon) (condemned : String → Prop) : Prop where
  past : ∀ id time, (id, time) ∈ d.returned → time ≤ d.clock
  renewed : ∀ id time, (id, time) ∈ d.returned → ∀ row, d.journal id.name = some row →
    row.pending = true → time ≤ row.updatedMs
  aged : ∀ id time, (id, time) ∈ d.returned → condemned id.name → time + 300000 ≤ d.clock

section Protected

variable {d d' : Daemon} {condemned condemned' : String → Prop} {config : DockerConfig}
  {ω : Answer} {e : Effect}

/-- The effects that leave the call where it is. -/
def Effect.stays : Effect → Bool
  | .lockCreation | .unlockCreation | .abandonedCreate _ | .journalSet _ _ | .publish _
  | .respond _ => false
  | _ => true

/-- They leave the lock, the journal and the returned containers alone. -/
theorem Daemon.act_stays (config : DockerConfig) (ω : Answer) (d : Daemon) (h : e.stays = true) :
    (d.act config ω e).2.locked = d.locked ∧ (d.act config ω e).2.clock = d.clock ∧
      (d.act config ω e).2.journal = d.journal ∧ (d.act config ω e).2.returned = d.returned := by
  cases e with
  | lockCreation | unlockCreation | journalSet | publish | respond => cases h
  | create spec =>
    simp only [Daemon.act]
    split
    · exact ⟨rfl, rfl, rfl, rfl⟩
    · show ((if _ then _ else _ : Daemon).locked = _) ∧ _
      split <;> exact ⟨rfl, rfl, rfl, rfl⟩
  | start ref | remove ref =>
    simp only [Daemon.act]
    split <;> exact ⟨rfl, rfl, rfl, rfl⟩
  | controlSet id state =>
    simp only [Daemon.act, Daemon.controlSet]
    split <;> exact ⟨rfl, rfl, rfl, rfl⟩
  | outside change =>
    cases change with
    | control id state =>
      simp only [Daemon.act, Daemon.outside, Daemon.controlSet]
      split <;> exact ⟨rfl, rfl, rfl, rfl⟩
    | _ => exact ⟨rfl, rfl, rfl, rfl⟩
  | _ => exact ⟨rfl, rfl, rfl, rfl⟩

namespace Protected

section

variable (h : Protected d condemned)
include h

/-- Time passes, and fewer names are condemned. -/
theorem later (hclock : d.clock ≤ d'.clock)
    (hjour : d'.journal = d.journal) (hret : d'.returned = d.returned)
    (hcondemned : ∀ name, condemned' name → condemned name) : Protected d' condemned' := by
  constructor
  · intro id time hmem
    exact Nat.le_trans (h.past id time (hret ▸ hmem)) hclock
  · intro id time hmem row hrow
    exact h.renewed id time (hret ▸ hmem) row (hjour ▸ hrow)
  · intro id time hmem hname
    exact Nat.le_trans (h.aged id time (hret ▸ hmem) (hcondemned _ hname)) hclock

theorem act_stays (hstays : e.stays = true) :
    Protected (d.act config ω e).2 condemned := by
  obtain ⟨-, hclock, hjour, hret⟩ := Daemon.act_stays config ω d hstays
  exact h.later (Nat.le_of_eq hclock.symm) hjour hret fun _ => id

/-- A row that is written now is younger than everything that was returned. -/
theorem journalSet (name : String) (state) :
    Protected (d.journalSet name state) condemned := by
  refine ⟨h.past, fun id time hmem row hrow hpend => ?_, h.aged⟩
  by_cases hname : id.name = name
  · simp only [Daemon.journalSet, hname, update_self, Option.some.injEq] at hrow
    exact hrow ▸ h.past id time hmem
  · simp only [Daemon.journalSet, update_of_ne hname] at hrow
    exact h.renewed id time hmem row hrow hpend

/-- A creation that is found abandoned returned its container long ago, if it did. -/
theorem condemn {name} (haband : d.abandonedCreate name = true) :
    Protected d fun other => condemned other ∨ other = name := by
  refine ⟨h.past, h.renewed, fun id time hmem hname => ?_⟩
  rcases hname with hcondemned | hname
  · exact h.aged id time hmem hcondemned
  · unfold Daemon.abandonedCreate at haband
    split at haband
    · rename_i row hrow
      simp only [Bool.and_eq_true, decide_eq_true_eq] at haband
      have := h.renewed id time hmem row (hname ▸ hrow) haband.1
      omega
    · cases haband

/-- A container is returned while nothing is condemned and its row is new. -/
theorem noteReturned (hnone : ∀ name, ¬condemned name)
    {id} (hrow : ∀ row, d.journal id.name = some row → row.pending = true →
      d.clock ≤ row.updatedMs) : Protected (d.noteReturned id) condemned := by
  have hcases : ∀ other time, (other, time) ∈ (d.noteReturned id).returned →
      (other = id ∧ time = d.clock) ∨ (other, time) ∈ d.returned := by
    intro other time hmem
    simpa [Daemon.noteReturned] using hmem
  constructor
  · intro other time hmem
    rcases hcases other time hmem with ⟨-, rfl⟩ | hold
    · exact Nat.le_refl _
    · exact h.past other time hold
  · intro other time hmem row hrow' hpend
    rcases hcases other time hmem with ⟨rfl, rfl⟩ | hold
    · exact hrow row hrow' hpend
    · exact h.renewed other time hold row hrow' hpend
  · intro other time _ hname
    exact absurd hname (hnone other.name)

/-- The creation that makes its container writes the row when it returns. -/
theorem publish (hnone : ∀ name, ¬condemned name) (id) :
    Protected ((d.journalSet id.name .created).noteReturned id) condemned := by
  refine (h.journalSet id.name .created).noteReturned hnone fun row hrow _ => ?_
  simp only [Daemon.journalSet, update_self, Option.some.injEq] at hrow
  exact hrow ▸ Nat.le_refl _

end

end Protected

end Protected

/-! ## The invariant -/

/-- Where the calls are, who has the lock, and that returned containers are protected. -/
structure Tidy (pool : ProviderPool) (φ : Nat → Place) : Prop where
  places : pool.Places providerProtocol .outside (· = .outside) φ
  locked : ∀ i, φ i ≠ .outside → pool.state.locked = true
  alone : ∀ i j, φ i ≠ .outside → φ j ≠ .outside → i = j
  guarded : Protected pool.state fun name => ∃ i, φ i = .condemned name

section Tidy

variable {config : DockerConfig} {pool pool' : ProviderPool} {φ : Nat → Place} {i : Nat}
  {ω : Answer} {e : Effect} {place : Place}

/-- Nothing is condemned while a call holds the lock for something else. -/
theorem Tidy.not_condemned (h : Tidy pool φ) (hi : φ i = .holding) (name : String) :
    ¬∃ j, φ j = .condemned name := by
  rintro ⟨j, hj⟩
  obtain rfl : i = j := h.alone i j (by simp [hi]) (by simp [hj])
  rw [hi] at hj
  cases hj

/-- A call that was outside or holds the lock moves on inside the lock, or stays outside. -/
theorem Tidy.move (h : Tidy pool φ)
    (hpl : pool'.Places providerProtocol .outside (· = .outside) (update φ i place))
    (hlocked : pool'.state.locked = pool.state.locked) (hplace : place = .outside ∨ φ i ≠ .outside)
    (hprotected : Protected pool'.state fun name => ∃ j, update φ i place j = .condemned name) :
    Tidy pool' (update φ i place) := by
  have hold : ∀ j, update φ i place j ≠ .outside → φ j ≠ .outside := by
    intro j hj
    by_cases heq : j = i
    · subst heq
      exact hplace.resolve_left (update_self j place φ ▸ hj)
    · rwa [update_of_ne heq] at hj
  exact ⟨hpl, fun j hj => hlocked ▸ h.locked j (hold j hj),
    fun j k hj hk => h.alone j k (hold j hj) (hold k hk), hprotected⟩

theorem condemned_update {name} (h : ∃ j, update φ i place j = .condemned name) :
    (∃ j, φ j = .condemned name) ∨ place = .condemned name := by
  obtain ⟨j, hj⟩ := h
  rcases update_cases hj with ⟨-, hj⟩ | ⟨heq, hj⟩
  · exact .inr hj
  · exact .inl ⟨j, hj⟩

theorem Place.next_stays (h : e.stays = true) (r : e.Reply) :
    place.next e r = place := by
  cases e with
  | lockCreation | unlockCreation | abandonedCreate | journalSet => cases h
  | _ => cases place <;> rfl

/-- A creation is found abandoned, and a container returned, by a call that just has the lock. -/
theorem Place.eq_holding (h : place.Allows e) (he : (∃ name, e = .abandonedCreate name) ∨
    ∃ id, e = .publish id ∨ e = .respond id) : place = .holding := by
  rcases he with ⟨name, rfl⟩ | ⟨id, rfl | rfl⟩ <;> cases place <;> first | rfl | exact h.elim

section

variable (h : Tidy pool φ)
include h

/-- The lock is taken when nobody has it. -/
theorem Tidy.lock (hfree : pool.state.locked = false)
    (hstate : pool'.state = (pool.state.handle config ω .lockCreation).2)
    (hpl : pool'.Places providerProtocol .outside (· = .outside)
      (update φ i .holding)) : Tidy pool' (update φ i .holding) := by
  have houtside : ∀ j, φ j = .outside := by
    intro j
    by_contra hj
    have := h.locked j hj
    rw [hfree] at this
    cases this
  have honly : ∀ j, update φ i .holding j ≠ .outside → j = i := by
    intro j hj
    by_contra hne
    rw [update_of_ne hne] at hj
    exact hj (houtside j)
  refine ⟨hpl, fun j _ => by rw [hstate]; rfl, fun j k hj hk => ?_, ?_⟩
  · rw [honly j hj, honly k hk]
  · rw [hstate]
    refine h.guarded.later (Nat.le_add_right _ _) rfl rfl fun name hname => ?_
    exact (condemned_update hname).resolve_right nofun

/-- The lock is given back by the call that has it. -/
theorem Tidy.unlock (hi : φ i ≠ .outside)
    (hstate : pool'.state = (pool.state.handle config ω .unlockCreation).2)
    (hpl : pool'.Places providerProtocol .outside (· = .outside)
      (update φ i .outside)) : Tidy pool' (update φ i .outside) := by
  have hnone : ∀ j, update φ i .outside j = .outside := by
    intro j
    by_cases heq : j = i
    · rw [heq, update_self]
    · rw [update_of_ne heq]
      by_contra hj
      exact heq (h.alone j i hj hi)
  refine ⟨hpl, fun j hj => absurd (hnone j) hj, fun j _ hj _ => absurd (hnone j) hj, ?_⟩
  rw [hstate]
  refine h.guarded.later (Nat.le_add_right _ _) rfl rfl fun name hname => ?_
  exact (condemned_update hname).resolve_right nofun

/-- **Every effect that a call may perform** keeps returned containers protected, if a container
that is found is returned with a row that is new. -/
theorem Tidy.perform (hen : pool.state.enabled e) (hallowed : (φ i).Allows e)
    (hrenewed : ∀ id, e = .respond id → ∀ row, pool.state.journal id.name = some row →
      row.pending = true → pool.state.clock + ω.elapsed ≤ row.updatedMs)
    (hstate : pool'.state = (pool.state.handle config ω e).2)
    (hpl : pool'.Places providerProtocol .outside (· = .outside)
      (update φ i ((φ i).next e (pool.state.handle config ω e).1))) :
    Tidy pool' (update φ i ((φ i).next e (pool.state.handle config ω e).1)) := by
  -- The state at the time the effect takes place.
  have hlater : Protected { pool.state with clock := pool.state.clock + ω.elapsed }
      fun name => ∃ j, φ j = .condemned name :=
    h.guarded.later (Nat.le_add_right _ _) rfl rfl fun _ => id
  have hholding : φ i = .holding → ∀ name, ¬∃ j, φ j = .condemned name := h.not_condemned
  by_cases hstays : e.stays = true
  -- most effects leave lock, journal and returned containers alone, and the call where it is
  · rw [Place.next_stays hstays] at hpl ⊢
    have hlocked : pool'.state.locked = pool.state.locked := by
      rw [hstate]
      exact (Daemon.act_stays config ω _ hstays).1
    refine h.move hpl hlocked ?_ ?_
    · by_cases hi : φ i = .outside
      · exact .inl hi
      · exact .inr hi
    · rw [update_eq_self, hstate]
      exact hlater.act_stays hstays
  · cases e with
    | lockCreation =>
      have hplace : (φ i).next .lockCreation (pool.state.handle config ω .lockCreation).1 =
          .holding := by cases φ i <;> rfl
      exact h.lock hen hstate hpl
    | unlockCreation =>
      have hplace : (φ i).next .unlockCreation (pool.state.handle config ω .unlockCreation).1 =
          .outside := by cases φ i <;> rfl
      rw [hplace] at hpl ⊢
      refine h.unlock (fun hi => ?_) hstate hpl
      rw [hi] at hallowed
      exact hallowed
    | abandonedCreate name =>
      have hi : φ i = .holding := Place.eq_holding hallowed (.inl ⟨_, rfl⟩)
      refine h.move hpl (by rw [hstate]; rfl) (.inr (by simp [hi])) ?_
      rw [hstate, hi]
      show Protected { pool.state with clock := pool.state.clock + ω.elapsed } fun other => ∃ j,
        update φ i (Place.next .holding (.abandonedCreate name)
          (Daemon.abandonedCreate { pool.state with clock := pool.state.clock + ω.elapsed } name)) j
            = .condemned other
      cases haband :
          Daemon.abandonedCreate { pool.state with clock := pool.state.clock + ω.elapsed } name with
      | false =>
        refine hlater.later (Nat.le_refl _) rfl rfl fun other hother => ?_
        exact (condemned_update hother).resolve_right nofun
      | true =>
        refine (hlater.condemn haband).later (Nat.le_refl _) rfl rfl fun other hother => ?_
        exact (condemned_update hother).imp_right fun hplace => (Place.condemned.inj hplace).symm
    | journalSet name state =>
      have hi : φ i ≠ .outside := by
        intro hi
        rw [hi] at hallowed
        exact hallowed
      refine h.move hpl (by rw [hstate]; rfl) (.inr hi) ?_
      rw [hstate]
      refine (hlater.journalSet name state).later (Nat.le_refl _) rfl rfl fun other hother => ?_
      refine (condemned_update hother).resolve_right ?_
      cases φ i <;> simp [Place.next]
    | publish id =>
      have hi : φ i = .holding := Place.eq_holding hallowed (.inr ⟨_, .inl rfl⟩)
      refine h.move hpl (by rw [hstate]; rfl) (.inr (by simp [hi])) ?_
      rw [hstate, hi]
      refine (hlater.publish (hholding hi) id).later (Nat.le_refl _) rfl rfl fun other hother => ?_
      exact (condemned_update hother).resolve_right nofun
    | respond id =>
      have hi : φ i = .holding := Place.eq_holding hallowed (.inr ⟨_, .inr rfl⟩)
      refine h.move hpl (by rw [hstate]; rfl) (.inr (by simp [hi])) ?_
      rw [hstate, hi]
      refine (hlater.noteReturned (hholding hi) (hrenewed id rfl)).later (Nat.le_refl _) rfl rfl
        fun other hother => ?_
      exact (condemned_update hother).resolve_right nofun
    | _ => exact absurd rfl hstays

theorem Tidy.step {move}
    (hstep : (providerSystem config).Step pool move pool') (hrenewed : Renewed pool move) :
    ∃ φ', Tidy pool' φ' := by
  rcases h.places.step_cases (fun _ call _ => body_follows config call) (fun _ => rfl) hstep with
    ⟨j, call, -, hstate, -, hpl⟩ | ⟨j, -, hstate, hrest, hpl⟩ |
      ⟨j, ω, call, e, onDrop, k, rfl, hthr, hen, hallowed, hstate, hpl⟩
  · exact ⟨φ, hpl, hstate ▸ h.locked, h.alone, hstate ▸ h.guarded⟩
  · refine ⟨_, h.move hpl (by rw [hstate]) (.inl rfl) ?_⟩
    rw [hstate]
    refine h.guarded.later (Nat.le_refl _) rfl rfl fun name hname => ?_
    exact (condemned_update hname).resolve_right nofun
  · refine ⟨_, h.perform hen hallowed ?_ hstate (hpl trivial)⟩
    rintro id rfl
    exact hrenewed call id onDrop k hthr

/-- A call that is about to remove an instance has found its creation abandoned. -/
theorem Tidy.spares (move : Move Answer ProviderCall) : Spares pool move := by
  cases move with
  | perform i ω =>
    intro call id onDrop k hthr time hmem
    have hallowed : (φ i).Allows (.remove (.id id)) := (h.places.running i call _ hthr).1
    cases hi : φ i with
    | outside | holding =>
      rw [hi] at hallowed
      exact hallowed.elim
    | condemned name =>
      rw [hi] at hallowed
      exact h.guarded.aged id time hmem ⟨i, hallowed ▸ hi⟩
  | _ => trivial

end

end Tidy

/-! ## Runs -/

/-- A provider on which nothing happens, with any containers, journal and ledger. -/
def idlePool (d : Daemon) : ProviderPool :=
  { state := { d with locked := false, returned := [] }, threads := fun _ => none }

/-- **Fresh containers are spared.**  In every interleaving of creations, loads and clean-ups, if
no creation returns a container that it found without a new journal row, then the monitor removes
no container that was returned within the last five minutes. -/
theorem fresh_spared (config : DockerConfig) (d : Daemon)
    (tr : List (ProviderPool × Move Answer ProviderCall)) (pool : ProviderPool)
    (hrun : Run (providerSystem config).Step (idlePool d) tr pool)
    (hrenewed : ∀ e ∈ tr, Renewed e.1 e.2) : ∀ e ∈ tr, Spares e.1 e.2 := by
  have hinit : ∃ φ, Tidy (idlePool d) φ := by
    refine ⟨fun _ => .outside, ⟨nofun, fun _ _ => rfl⟩, fun _ h => absurd rfl h,
      fun _ _ h => absurd rfl h, nofun, nofun, nofun⟩
  intro e he
  obtain ⟨φ, htidy⟩ := hrun.invariant_at (P := fun pool => ∃ φ, Tidy pool φ) hinit
    (fun pool move _ ⟨_, h⟩ (hmove : Renewed pool move) hstep => h.step hstep hmove) hrenewed e he
  exact htidy.spares e.2

/-! ## Sample runs -/

namespace Sample

def config : DockerConfig where
  deployment := "d"
  image := "base"
  reserveBytes := 0
  maxContainers := 8
  containerName := fun owner request => owner ++ request

def daemon : Daemon where
  clock := 0
  locked := false
  containers := []
  serial := 0
  journal := fun _ => none
  controls := fun _ => .ready
  ledger := []
  returned := []

def creation : ProviderCall :=
  .create { backendId := "docker", ownerRef := "o", reason := .acquire, providerOptions := .null,
            correlation := .object [("request_id", .string "r")] }

def container : ContainerId := ⟨"or", 0⟩

/-- A call makes some effects, the first of them after a while. -/
def moves (i : Nat) (n : Nat) (elapsed : Nat) : List (Move Answer ProviderCall) :=
  .perform i { elapsed } :: List.replicate n (.perform i {})

/-- The first attempt makes the container and its caller is lost. -/
def firstAttempt : List (Move Answer ProviderCall) :=
  .start 0 creation :: moves 0 10 0 ++ [.finish 0]

/-- The move does not return a container that was found. -/
def findsNothing (pool : ProviderPool) : Move Answer ProviderCall → Bool
  | .perform i _ =>
    match pool.effect i with
    | some (.respond _) => false
    | _ => true
  | _ => true

theorem renewed_of_findsNothing {pool move} (h : findsNothing pool move = true) :
    Renewed pool move := by
  cases move with
  | perform i ω =>
    intro call id onDrop k hthr
    have hnext : pool.effect i = some (.respond id) :=
      Pool.effect_eq_some_iff.2 ⟨call, onDrop, k, hthr⟩
    simp [findsNothing, hnext] at h
  | _ => trivial

/-- The move removes the container, which has been returned this very moment. -/
def removesFresh (pool : ProviderPool) : Move Answer ProviderCall → Bool
  | .perform i _ => pool.effect i = some (.remove (.id container)) &&
      (container, pool.state.clock) ∈ pool.state.returned
  | _ => false

theorem not_spares_of_removesFresh {pool move}
    (h : removesFresh pool move = true) : ¬ Spares pool move := by
  cases move with
  | perform i ω =>
    simp only [removesFresh, Bool.and_eq_true, decide_eq_true_eq] at h
    obtain ⟨call, onDrop, k, hthr⟩ := Pool.effect_eq_some_iff.1 h.1
    intro hspares
    have hold := hspares call container onDrop k hthr _ h.2
    omega
  | _ => cases h

end Sample

/-- A container that nobody recorded is removed, more than five minutes after it was returned. -/
theorem abandoned_container_removed : ∃ tr pool,
    Run (providerSystem Sample.config).Step (idlePool Sample.daemon) tr pool ∧
      (∀ e ∈ tr, Spares e.1 e.2) ∧ pool.state.returned = [(Sample.container, 0)] ∧
      pool.state.containers = [] := by
  obtain ⟨tr, pool, hrun, hchk, hpost⟩ := (providerSystem Sample.config).exists_run
    (idlePool Sample.daemon)
    (Sample.firstAttempt ++ .start 1 .cleanup :: Sample.moves 1 6 400000)
    Sample.findsNothing
    (fun _ pool => pool.state.returned = [(Sample.container, 0)] && pool.state.containers = [])
    (by decide +kernel)
  simp only [Bool.and_eq_true, decide_eq_true_eq] at hpost
  exact ⟨tr, pool, hrun, fresh_spared Sample.config Sample.daemon tr pool hrun fun e he =>
    Sample.renewed_of_findsNothing (hchk e he), hpost⟩

/-- The monitor reads the ledger before the request is made again.  The second attempt finds the
container of the first one and returns it, but leaves the journal row as it is; the monitor takes
it for abandoned and removes it, and the ledger then records a container that is gone. -/
theorem returned_container_removed : ∃ tr pool,
    Run (providerSystem Sample.config).Step (idlePool Sample.daemon) tr pool ∧
      (∃ e ∈ tr, ¬ Spares e.1 e.2) ∧ Sample.container ∈ pool.state.ledger ∧
      pool.state.containers = [] := by
  obtain ⟨tr, pool, hrun, -, hpost⟩ := (providerSystem Sample.config).exists_run
    (idlePool Sample.daemon)
    (Sample.firstAttempt ++ .start 1 .cleanup :: Sample.moves 1 0 400000 ++
      .start 2 Sample.creation :: Sample.moves 2 6 0 ++ Sample.moves 1 5 0 ++
      .start 3 (.record Sample.container) :: Sample.moves 3 0 0)
    (fun _ _ => true)
    (fun tr pool => tr.any (fun e => Sample.removesFresh e.1 e.2) &&
      Sample.container ∈ pool.state.ledger && pool.state.containers = [])
    (by decide +kernel)
  simp only [Bool.and_eq_true, List.any_eq_true, decide_eq_true_eq] at hpost
  obtain ⟨⟨⟨e, he, hfresh⟩, hledg⟩, hgone⟩ := hpost
  exact ⟨tr, pool, hrun, ⟨e, he, Sample.not_spares_of_removesFresh hfresh⟩, hledg, hgone⟩

end XGovernor.Docker
