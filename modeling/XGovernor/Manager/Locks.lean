import Mathlib.Algebra.BigOperators.Fin
import XGovernor.Lib.Table
import XGovernor.Lib.TransitionSystem

/-!
# The map of runtime locks

A call that starts, loads, stops, retries or destroys the instance of a runtime gets the lock of the
runtime from a map, waits for it, works under it and gives it back.  A lock that nobody else has is
then taken out of the map.  Every critical section of the map is a step of its own, and calls may be
dropped wherever they wait.
-/

namespace XGovernor.Manager

open Lib

/-- A lock that was made for a runtime, counted among the locks that were made. -/
abbrev RuntimeLock := String × Nat

/-- How far a call has come with a lock. -/
inductive LockPhase where
  | cloned
  | waiting
  | holding
  | unlocked
  | dropped
deriving DecidableEq

namespace LockPhase

/-- What a call does next, up to its last look at the map. -/
def next : LockPhase → Option LockPhase
  | cloned => some waiting
  | waiting => some holding
  | holding => some unlocked
  | unlocked => some dropped
  | dropped => none

/-- The clones a call has: its own, and the one that waits for the lock and then is the guard. -/
def clones : LockPhase → Nat
  | cloned | unlocked => 1
  | waiting | holding => 2
  | dropped => 0

end LockPhase

/-- `runtime_locks`, and the calls with the locks they use. -/
structure LockMap (n : Nat) where
  entries : String → Option Nat
  made : Nat
  calls : Fin n → Option (RuntimeLock × LockPhase)

namespace LockMap

variable {n : Nat} {s s' : LockMap n} {lock : RuntimeLock}

def empty (n : Nat) : LockMap n := ⟨fun _ => none, 0, fun _ => none⟩

def enter (s : LockMap n) (i : Fin n) (call : Option (RuntimeLock × LockPhase)) : LockMap n :=
  { s with calls := fun j => if j = i then call else s.calls j }

/-- `Arc::strong_count` of a lock in the map: the map's clone and those of the calls. -/
def strongCount (s : LockMap n) (lock : RuntimeLock) : Nat :=
  1 + ∑ i, (s.calls i).elim 0 fun call => if call.1 = lock then call.2.clones else 0

/-- `get_runtime_lock`. -/
def getRuntimeLock (s : LockMap n) (i : Fin n) (runtimeId : String) : LockMap n :=
  let serial := (s.entries runtimeId).getD s.made
  { entries := fun key => if key = runtimeId then some serial else s.entries key
    made := if (s.entries runtimeId).isSome then s.made else s.made + 1
    calls := (s.enter i (some ((runtimeId, serial), .cloned))).calls }

/-- `release_runtime_lock`, after the call has dropped its clone. -/
def releaseRuntimeLock (s : LockMap n) (i : Fin n) (runtimeId : String) : LockMap n :=
  let unused := (s.entries runtimeId).any fun serial => s.strongCount (runtimeId, serial) = 1
  { s.enter i none with
    entries := fun key => if unused && key = runtimeId then none else s.entries key }

inductive Event where
  | goesOn
  | isDropped
deriving DecidableEq

/-- One step of a call.  A lock can be taken when no call holds it. -/
inductive Step (s : LockMap n) : Event → LockMap n → Prop
  | get {i} (runtimeId : String) (idle : s.calls i = none) :
      Step s .goesOn (s.getRuntimeLock i runtimeId)
  | go {i lock phase phase'}
      (call : s.calls i = some (lock, phase)) (next : phase.next = some phase')
      (free : phase' = .holding → ∀ j, s.calls j ≠ some (lock, .holding)) :
      Step s .goesOn (s.enter i (some (lock, phase')))
  | release {i lock} (call : s.calls i = some (lock, .dropped)) :
      Step s .goesOn (s.releaseRuntimeLock i lock.1)
  | abandon {i lock phase}
      (call : s.calls i = some (lock, phase)) (suspended : phase = .waiting ∨ phase = .holding) :
      Step s .isDropped (s.enter i none)

/-- The locks that calls have clones of are in the map, and each is held once. -/
structure Sound (s : LockMap n) : Prop where
  current : ∀ i lock phase, s.calls i = some (lock, phase) → phase ≠ .dropped →
    s.entries lock.1 = some lock.2
  exclusive : ∀ i j lock, s.calls i = some (lock, .holding) → s.calls j = some (lock, .holding) →
    i = j

/-- A lock that is counted once belongs to the map alone. -/
theorem strongCount_eq_one :
    s.strongCount lock = 1 ↔ ∀ i phase, s.calls i = some (lock, phase) → phase = .dropped := by
  have hclones : ∀ phase : LockPhase, phase.clones = 0 ↔ phase = .dropped := by
    rintro (_ | _) <;> simp [LockPhase.clones]
  simp only [strongCount, Nat.add_eq_left, Finset.sum_eq_zero_iff, Finset.mem_univ, true_imp_iff]
  refine forall_congr' fun i => ?_
  rcases s.calls i with _ | ⟨lock', phase⟩
  · simp
  · by_cases heq : lock' = lock <;> simp [heq, hclones]

/-- **Step**: only a lock that no call has a clone of leaves the map. -/
theorem Sound.step {event} (sound : Sound s) (hstep : Step s event s') : Sound s' := by
  obtain ⟨current, exclusive⟩ := sound
  cases hstep with
  | get runtimeId idle => constructor <;> simp only [getRuntimeLock, LockMap.enter] <;> grind
  | go call next free => constructor <;> simp only [LockMap.enter] <;> grind [LockPhase.next]
  | abandon => constructor <;> simp only [LockMap.enter] <;> grind
  | release call =>
    -- whoever has a clone of the entry's lock is counted, so the entry stays
    constructor <;> simp only [releaseRuntimeLock, LockMap.enter] <;> grind [strongCount_eq_one]

/-- Every entry has a call that has yet to look at it. -/
def Served (s : LockMap n) : Prop :=
  ∀ runtimeId serial, s.entries runtimeId = some serial →
    ∃ i lock phase, s.calls i = some (lock, phase) ∧ lock.1 = runtimeId

/-- **Step**: the last call that has dropped its clone takes the lock out of the map. -/
theorem Served.step (served : Served s) (hstep : Step s .goesOn s') : Served s' := by
  intro key serial hentry
  cases hstep with
  | @get i runtimeId idle =>
    simp only [getRuntimeLock, LockMap.enter] at hentry ⊢
    by_cases hkey : key = runtimeId
    · exact ⟨i, _, _, if_pos rfl, hkey.symm⟩
    · grind [Served]
  | go call =>
    simp only [LockMap.enter] at hentry ⊢
    grind [Served]
  | release call =>
    -- an entry that stays is counted for another call, which has it still to release
    simp only [releaseRuntimeLock, LockMap.enter] at hentry ⊢
    grind [Served, strongCount_eq_one]

/-- **Runtime locks.**  Whatever calls run side by side and are dropped, at most one of them holds
the lock of a runtime; and when none was dropped and all have ended, the map is empty. -/
theorem runtimeLocks_sound {tr : List (LockMap n × Event)} (hrun : Run Step (empty n) tr s) :
    (∀ i j runtimeId serial serial', s.calls i = some ((runtimeId, serial), .holding) →
      s.calls j = some ((runtimeId, serial'), .holding) → i = j) ∧
    ((∀ e ∈ tr, e.2 ≠ .isDropped) → (∀ i, s.calls i = none) →
      ∀ runtimeId, s.entries runtimeId = none) := by
  constructor
  · intro i j runtimeId serial serial' hholds hholds'
    have hsound : Sound s := hrun.invariant (P := Sound) ⟨by simp [empty], by simp [empty]⟩
      fun _ _ _ => Sound.step
    have hentry : s.entries runtimeId = some serial := hsound.current i _ _ hholds nofun
    have hentry' : s.entries runtimeId = some serial' := hsound.current j _ _ hholds' nofun
    cases hentry.symm.trans hentry'
    exact hsound.exclusive i j _ hholds hholds'
  · intro hkept hidle runtimeId
    have hserved : Served s := by
      have hrun' : Run (fun s event s' => Step s event s' ∧ event ≠ .isDropped) _ _ _ :=
        hrun.restrict hkept
      refine hrun'.invariant (by simp [Served, empty]) ?_
      rintro s (_ | _) s' hserved ⟨hstep, hgoes⟩
      · exact hserved.step hstep
      · exact absurd rfl hgoes
    refine Option.eq_none_iff_forall_ne_some.2 fun serial hentry => ?_
    obtain ⟨i, lock, phase, hcall, -⟩ := hserved runtimeId serial hentry
    cases (hidle i).symm.trans hcall

/-- Two calls contend for the lock of one runtime: the second waits while the first holds it and
finds it in the map when the first is done, and then takes it out of the map. -/
theorem runtimeLocks_sound_sample : ∃ mid s : LockMap 2, ∃ tr tr', Run Step (empty 2) tr mid ∧
    mid.calls 1 = some (("session", 0), .waiting) ∧
    (∀ j serial, mid.calls j = some (("session", serial), .holding) → 0 = j) ∧
    Run Step (empty 2) tr' s ∧ tr'.length = tr.length + 7 ∧ s.entries "session" = none := by
  have hmid : Run Step (empty 2) _ _ := .snoc (.snoc (.snoc (.snoc (.snoc .nil
    (.get (i := 0) "session" rfl)) (.get (i := 1) "session" rfl)) (.go (i := 0) rfl rfl nofun))
    (.go (i := 1) rfl rfl nofun)) (.go (i := 0) rfl rfl (by decide))
  have hrun : Run Step (empty 2) _ _ := .snoc (.snoc (.snoc (.snoc (.snoc (.snoc (.snoc hmid
    (.go (i := 0) rfl rfl nofun)) (.go (i := 0) rfl rfl nofun)) (.release (i := 0) rfl))
    (.go (i := 1) rfl rfl (by decide))) (.go (i := 1) rfl rfl nofun))
    (.go (i := 1) rfl rfl nofun)) (.release (i := 1) rfl)
  refine ⟨_, _, _, _, hmid, rfl, ?_, hrun, rfl, ?_⟩
  · exact fun j serial => (runtimeLocks_sound hmid).1 0 j "session" 0 serial rfl
  · exact (runtimeLocks_sound hrun).2 (by simp) (by decide) "session"

end LockMap

end XGovernor.Manager
