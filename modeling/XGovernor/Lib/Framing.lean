import Mathlib.Data.List.Basic

/-!
# Cutting a stream into frames

A stream arrives in chunks whose borders mean nothing.  A cutter takes the first complete frame
off the front of what has arrived; it must not change its mind when more arrives.  Then the frames
of a stream do not depend on the chunks: cutting what is left over together with the next chunk
gives the frames that cutting everything at once gives.

A consumer folds over frames and stops at the first that it rejects, keeping what it has.
-/

namespace XGovernor.Lib

universe u v w

/-- A function that takes the first frame off a buffer. -/
structure Cutter (α : Type u) (F : Type v) where
  next : List α → Option (F × List α)
  shorter : ∀ {buffer f rest}, next buffer = some (f, rest) → rest.length < buffer.length
  stable : ∀ {buffer f rest} (more : List α), next buffer = some (f, rest) →
    next (buffer ++ more) = some (f, rest ++ more)

namespace Cutter

variable {α : Type u} {F : Type v} (cut : Cutter α F)

/-- The complete frames of a buffer, and what is left over. -/
def split (buffer : List α) : List F × List α :=
  match h : cut.next buffer with
  | none => ([], buffer)
  | some (f, rest) =>
    have := cut.shorter h
    (f :: (split rest).1, (split rest).2)
  termination_by buffer.length

def frames (buffer : List α) : List F :=
  (cut.split buffer).1

def leftover (buffer : List α) : List α :=
  (cut.split buffer).2

variable {cut} {buffer rest : List α} {f : F}

theorem frames_of_none (h : cut.next buffer = none) : cut.frames buffer = [] := by
  rw [frames, split]
  split <;> simp_all

theorem leftover_of_none (h : cut.next buffer = none) : cut.leftover buffer = buffer := by
  rw [leftover, split]
  split <;> simp_all

theorem frames_of_some (h : cut.next buffer = some (f, rest)) :
    cut.frames buffer = f :: cut.frames rest := by
  rw [frames, split]
  split <;> simp_all [frames]

theorem leftover_of_some (h : cut.next buffer = some (f, rest)) :
    cut.leftover buffer = cut.leftover rest := by
  rw [leftover, split]
  split <;> simp_all [leftover]

/-- Induction along the frames of a buffer. -/
theorem induct {motive : List α → Prop} (none : ∀ buffer, cut.next buffer = none → motive buffer)
    (some : ∀ buffer f rest, cut.next buffer = some (f, rest) → motive rest → motive buffer)
    (buffer : List α) : motive buffer := by
  induction hlen : buffer.length using Nat.strongRecOn generalizing buffer with
  | ind n ih =>
    cases h : cut.next buffer with
    | none => exact none buffer h
    | some pair =>
      obtain ⟨f, rest⟩ := pair
      exact some buffer f rest h (ih rest.length (hlen ▸ cut.shorter h) rest rfl)

/-- **Chunks do not matter.**  The frames of a longer buffer are the frames of its beginning and
the frames of what those left over, with the rest. -/
theorem frames_append (buffer more : List α) :
    cut.frames (buffer ++ more) =
      cut.frames buffer ++ cut.frames (cut.leftover buffer ++ more) := by
  induction buffer using cut.induct with
  | none buffer h => rw [frames_of_none h, leftover_of_none h, List.nil_append]
  | some buffer f rest h ih =>
    rw [frames_of_some h, leftover_of_some h, frames_of_some (cut.stable more h), ih,
      List.cons_append]

theorem leftover_append (buffer more : List α) :
    cut.leftover (buffer ++ more) = cut.leftover (cut.leftover buffer ++ more) := by
  induction buffer using cut.induct with
  | none buffer h => rw [leftover_of_none h]
  | some buffer f rest h ih => rw [leftover_of_some h, leftover_of_some (cut.stable more h), ih]

end Cutter

/-! ## Consuming frames -/

section Consume

variable {F : Type u} {S : Type v} {E : Type w}

/-- Fold over frames up to the first that is rejected. -/
def consume (step : F → S → Except E Unit × S) : List F → S → Except E Unit × S
  | [], s => (.ok (), s)
  | f :: fs, s =>
    match step f s with
    | (.error e, s') => (.error e, s')
    | (.ok _, s') => consume step fs s'

variable {step : F → S → Except E Unit × S} {fs : List F} {P : S → Prop} {s s' : S}

theorem consume_append_ok (h : consume step fs s = (.ok (), s'))
    (gs : List F) : consume step (fs ++ gs) s = consume step gs s' := by
  induction fs generalizing s with
  | nil =>
    obtain rfl := (Prod.mk.inj h).2
    rfl
  | cons f fs ih =>
    simp only [consume, List.cons_append] at h ⊢
    split at h
    · cases h
    · exact ih h

theorem consume_append_error {e : E} (h : consume step fs s = (.error e, s')) (gs : List F) :
    consume step (fs ++ gs) s = (.error e, s') := by
  induction fs generalizing s with
  | nil => cases h
  | cons f fs ih =>
    simp only [consume, List.cons_append] at h ⊢
    split at h
    · exact h
    · exact ih h

/-- What every step keeps, the fold keeps. -/
theorem consume_invariant (hstep : ∀ f s, P s → P (step f s).2)
    (h : P s) : P (consume step fs s).2 := by
  induction fs generalizing s with
  | nil => exact h
  | cons f fs ih =>
    have hnext := hstep f s h
    simp only [consume]
    split
    · rename_i hres
      rwa [hres] at hnext
    · rename_i hres
      rw [hres] at hnext
      exact ih hnext

/-- A step that a change of state commutes with makes a fold that it commutes with. -/
theorem consume_map {change : S → S} (hkeep : ∀ f s, P s → P (step f s).2)
    (hstep : ∀ f s, P s → step f (change s) = ((step f s).1, change (step f s).2)) (h : P s) :
    consume step fs (change s) = ((consume step fs s).1, change (consume step fs s).2) := by
  induction fs generalizing s with
  | nil => rfl
  | cons f fs ih =>
    have hnext := hkeep f s h
    simp only [consume, hstep f s h]
    cases hres : step f s with
    | mk result s' =>
      rw [hres] at hnext
      cases result with
      | error e => rfl
      | ok _ => exact ih hnext

/-- A property that the fold makes true is made true by one frame, after frames that were all
accepted. -/
theorem exists_raise_of_consume (hdown : ¬P s) (hup : P (consume step fs s).2) :
    ∃ before f after s', fs = before ++ f :: after ∧ consume step before s = (.ok (), s') ∧
      ¬P s' ∧ P (step f s').2 := by
  induction fs generalizing s with
  | nil => exact absurd hup hdown
  | cons f fs ih =>
    by_cases hstep : P (step f s).2
    · exact ⟨[], f, fs, s, rfl, rfl, hdown, hstep⟩
    · simp only [consume] at hup
      split at hup
      · rename_i hres
        exact absurd (by rwa [hres]) hstep
      · rename_i hres
        rw [hres] at hstep
        obtain ⟨before, g, after, s', rfl, hbef, hs', hg⟩ := ih hstep hup
        exact ⟨f :: before, g, after, s', rfl, by simp [consume, hres, hbef], hs', hg⟩

end Consume

end XGovernor.Lib
