import Mathlib.Data.List.Count
import Mathlib.Logic.Basic

/-!
# Runs of a labelled transition system

A run is a finite sequence of steps from a start state; it remembers the state each
step was taken in and its label, so that histories (events, replies, counters) are
functions of the run.  The three rules below are the ones a development about a
store needs: an invariant of the states, an invariant of the history and the state
together, and the rule that a step guarded by a flag it raises fires at most once.
-/

namespace XGovernor.Lib

universe u v

variable {σ : Type u} {L : Type v} {P : σ → Prop}

/-- `Run step s₀ tr s`: the steps of `tr`, each with the state it was taken in, lead
from `s₀` to `s`. -/
inductive Run (step : σ → L → σ → Prop) (s₀ : σ) : List (σ × L) → σ → Prop where
  | nil : Run step s₀ [] s₀
  | snoc {tr : List (σ × L)} {s s' : σ} {l : L} :
      Run step s₀ tr s → step s l s' → Run step s₀ (tr ++ [(s, l)]) s'

/-- The states that some run from `s₀` ends in. -/
def Reachable (step : σ → L → σ → Prop) (s₀ s : σ) : Prop :=
  ∃ tr, Run step s₀ tr s

namespace Run

variable {step : σ → L → σ → Prop} {s₀ s s' : σ} {tr tr' : List (σ × L)} {allowed : σ → L → Prop}

theorem trans (h : Run step s₀ tr s) (h' : Run step s tr' s') :
    Run step s₀ (tr ++ tr') s' := by
  induction h' with
  | nil => simpa using h
  | snoc _ hstep ih =>
    rw [← List.append_assoc]
    exact .snoc ih hstep

/-- Invariant rule for a property of the history and the state. -/
theorem history_invariant {P : List (σ × L) → σ → Prop} (hinit : P [] s₀)
    (hstep : ∀ tr s l s', Run step s₀ tr s → P tr s → step s l s' → P (tr ++ [(s, l)]) s')
    (h : Run step s₀ tr s) : P tr s := by
  induction h with
  | nil => exact hinit
  | snoc hrun hs ih => exact hstep _ _ _ _ hrun ih hs

/-- Invariant rule for a property of the state. -/
theorem invariant (hinit : P s₀)
    (hstep : ∀ s l s', P s → step s l s' → P s') (h : Run step s₀ tr s) : P s :=
  h.history_invariant (P := fun _ s => P s) hinit fun _ s l s' _ hs => hstep s l s' hs

/-- A run whose steps all meet a condition is a run of the steps that meet it. -/
theorem restrict (h : Run step s₀ tr s) (hallowed : ∀ e ∈ tr, allowed e.1 e.2) :
    Run (fun s l s' => step s l s' ∧ allowed s l) s₀ tr s := by
  induction h with
  | nil => exact .nil
  | @snoc tr s s' l _ hs ih =>
    refine .snoc (ih fun e hmem => hallowed e (List.mem_append_left _ hmem)) ⟨hs, ?_⟩
    exact hallowed (s, l) (by simp)

/-- Simulation: if `f` maps every step to a step, with the label `g` gives it, it maps runs
to runs. -/
theorem map {τ : Type u} {M : Type v} {step' : τ → M → τ → Prop} {f : σ → τ} {g : σ × L → M}
    (hsim : ∀ s l s', step s l s' → step' (f s) (g (s, l)) (f s')) (h : Run step s₀ tr s) :
    Run step' (f s₀) (tr.map fun e => (f e.1, g e)) (f s) := by
  induction h with
  | nil => exact .nil
  | snoc _ hs ih =>
    rw [List.map_append]
    exact .snoc ih (hsim _ _ _ hs)

/-- A kind of step that only fires while a flag is down, and raises it, fires at most once
in a run during which nothing lowers the flag. -/
theorem countP_le_one (flag : σ → Prop) {fires : σ × L → Bool}
    (hguard : ∀ s l s', step s l s' → fires (s, l) = true → ¬ flag s ∧ flag s')
    (hkeep : ∀ s l s', step s l s' → flag s → flag s')
    (h : Run step s₀ tr s) : tr.countP fires ≤ 1 := by
  have key : (tr.countP fires ≤ 1) ∧ (tr.countP fires = 1 → flag s) := by
    refine h.history_invariant
      (P := fun tr s => tr.countP fires ≤ 1 ∧ (tr.countP fires = 1 → flag s)) (by simp) ?_
    rintro tr s l s' - ⟨hle, hflag⟩ hs
    rw [List.countP_append, List.countP_singleton]
    by_cases hf : fires (s, l) = true
    · -- the flag was down, so nothing has fired before
      obtain ⟨hdown, hup⟩ := hguard s l s' hs hf
      have hzero : tr.countP fires = 0 := by
        by_contra hne
        exact hdown (hflag (by omega))
      simp [hf, hzero, hup]
    · simp only [hf, Bool.false_eq_true, if_false, Nat.add_zero]
      exact ⟨hle, fun hone => hkeep s l s' hs (hflag hone)⟩
  exact key.1

/-- A run is what led to one of its steps, the step, and what came after it. -/
theorem split_of_mem {e : σ × L} (h : Run step s₀ tr s) (he : e ∈ tr) :
    ∃ before after s', tr = before ++ e :: after ∧ Run step s₀ before e.1 ∧
      step e.1 e.2 s' ∧ Run step s' after s := by
  induction h with
  | nil => simp at he
  | @snoc tr s s' l hrun hstep ih =>
    rcases List.mem_append.1 he with hmem | hlast
    · obtain ⟨before, after, t, rfl, hbef, hs, hafter⟩ := ih hmem
      exact ⟨before, after ++ [(s, l)], t, by simp, hbef, hs, hafter.snoc hstep⟩
    · obtain rfl := List.mem_singleton.1 hlast
      exact ⟨tr, [], s', rfl, hrun, hstep, .nil⟩

/-- Invariant rule for the steps of a run: if the steps that are allowed keep a property and all
steps of the run are, then each of them is made where the property holds. -/
theorem invariant_at (hinit : P s₀)
    (hstep : ∀ s l s', P s → allowed s l → step s l s' → P s') (h : Run step s₀ tr s)
    (hallowed : ∀ e ∈ tr, allowed e.1 e.2) : ∀ e ∈ tr, P e.1 := by
  intro e he
  obtain ⟨before, after, _, rfl, hbef, -⟩ := h.split_of_mem he
  have hrestricted := hbef.restrict fun e' he' => hallowed e' (List.mem_append_left _ he')
  exact hrestricted.invariant hinit fun s l s' hs hs' => hstep s l s' hs hs'.2 hs'.1

/-- A flag that no step lowers is raised by exactly one step of a run that ends with it up. -/
theorem existsUnique_raise {F : σ → Prop} (hdet : ∀ s l a b, step s l a → step s l b → a = b)
    (hkeep : ∀ s l s', step s l s' → F s → F s') (hinit : ¬ F s₀) (h : Run step s₀ tr s)
    (hup : F s) :
    ∃! i : Nat, ∃ e : σ × L, tr[i]? = some e ∧ ¬ F e.1 ∧ ∃ s', step e.1 e.2 s' ∧ F s' := by
  refine (h.history_invariant (P := fun (tr : List (σ × L)) s =>
    (F s → ∃! i : Nat, ∃ e : σ × L, tr[i]? = some e ∧ ¬ F e.1 ∧ ∃ s', step e.1 e.2 s' ∧ F s') ∧
    (¬ F s → ∀ (i : Nat) (e : σ × L), tr[i]? = some e → ¬ F e.1 → ¬ ∃ s', step e.1 e.2 s' ∧ F s'))
    ⟨fun hup => absurd hup hinit, fun _ i e he => by simp at he⟩ ?_).1 hup
  rintro tr s l s' - ⟨hraised, hdown⟩ hstep
  -- an index of the longer run is the last one or one of the run before
  have hlast : ∀ {i : Nat} {e : σ × L}, (tr ++ [(s, l)])[i]? = some e →
      i < tr.length ∧ tr[i]? = some e ∨ i = tr.length ∧ e = (s, l) := by
    intro i e he
    rcases Nat.lt_trichotomy i tr.length with hi | rfl | hi
    · exact .inl ⟨hi, by rwa [List.getElem?_append_left hi] at he⟩
    · exact .inr ⟨rfl, by simpa [eq_comm] using he⟩
    · rw [List.getElem?_eq_none (by simp; omega)] at he
      exact absurd he (by simp)
  have hold : ∀ {i : Nat} {e : σ × L}, tr[i]? = some e → (tr ++ [(s, l)])[i]? = some e := by
    intro i e he
    rwa [List.getElem?_append_left (List.getElem?_eq_some_iff.1 he).1]
  by_cases hs : F s
  · refine ⟨fun _ => ?_, fun hs' => absurd (hkeep s l s' hstep hs) hs'⟩
    obtain ⟨i, ⟨e, he, hraise⟩, huniq⟩ := hraised hs
    refine ⟨i, ⟨e, hold he, hraise⟩, ?_⟩
    rintro j ⟨e', he', hraise'⟩
    rcases hlast he' with ⟨-, hj⟩ | ⟨-, rfl⟩
    · exact huniq j ⟨e', hj, hraise'⟩
    · exact absurd hs hraise'.1
  · refine ⟨fun hs' => ⟨tr.length, ⟨(s, l), by simp, hs, s', hstep, hs'⟩, ?_⟩, ?_⟩
    · rintro j ⟨e', he', hraise'⟩
      rcases hlast he' with ⟨-, hj⟩ | ⟨hj, -⟩
      · exact absurd hraise'.2 (hdown hs j e' hj hraise'.1)
      · exact hj
    · rintro hs' i e he hdown' ⟨t, hstep', ht⟩
      rcases hlast he with ⟨-, hi⟩ | ⟨-, rfl⟩
      · exact hdown hs i e hi hdown' ⟨t, hstep', ht⟩
      · exact hs' (hdet s l t s' hstep' hstep ▸ ht)

end Run

namespace Reachable

variable {step : σ → L → σ → Prop} {s₀ s s' : σ} {tr : List (σ × L)}

section

variable (h : Reachable step s₀ s)
include h

theorem run (hrun : Run step s tr s') :
    Reachable step s₀ s' := by
  obtain ⟨tr₀, h₀⟩ := h
  exact ⟨tr₀ ++ tr, h₀.trans hrun⟩

/-- Invariant rule for a run that starts in a reachable state: its steps are taken in reachable
states. -/
theorem run_invariant (hrun : Run step s tr s') (hinit : P s)
    (hstep : ∀ t l t', Reachable step s₀ t → P t → step t l t' → P t') : P s' :=
  hrun.history_invariant (P := fun _ t => P t) hinit fun _ t l t' hprefix ht hs =>
    hstep t l t' (h.run hprefix) ht hs

/-- Invariant rule for reachable states, where a step may use that it is taken in one. -/
theorem induct (hinit : P s₀)
    (hstep : ∀ t l t', Reachable step s₀ t → P t → step t l t' → P t') : P s := by
  obtain ⟨tr, hrun⟩ := h
  exact run_invariant ⟨[], .nil⟩ hrun hinit hstep

end

/-- Invariant rule for reachable states. -/
theorem invariant (hinit : P s₀)
    (hstep : ∀ s l s', P s → step s l s' → P s') (h : Reachable step s₀ s) : P s := by
  obtain ⟨tr, hrun⟩ := h
  exact hrun.invariant hinit hstep

end Reachable

/-! ## Schedules

A step relation that is computed by a partial function runs by itself once the labels are chosen;
for concrete labels, `Along` unfolds to the facts about the states on the way. -/

/-- The labels can be taken from `s`, each in a state that meets `P`, and lead to a state that
meets `Q`. -/
def Along (next : σ → L → Option σ) (P : σ → L → Prop) (Q : σ → Prop) : σ → List L → Prop
  | s, [] => Q s
  | s, l :: labels =>
    P s l ∧ match next s l with
      | some s' => Along next P Q s' labels
      | none => False

theorem Along.run {next : σ → L → Option σ} {P : σ → L → Prop} {Q : σ → Prop} {s : σ}
    {labels : List L} {step : σ → L → σ → Prop}
    (hnext : ∀ s l s', next s l = some s' → step s l s') (h : Along next P Q s labels) :
    ∃ tr s', Run step s tr s' ∧ (∀ e ∈ tr, P e.1 e.2) ∧ Q s' := by
  induction labels generalizing s with
  | nil => exact ⟨[], s, .nil, by simp, h⟩
  | cons l labels ih =>
    obtain ⟨hl, hrest⟩ := h
    split at hrest
    · rename_i s' hs'
      obtain ⟨tr, last, hrun, hall, hlast⟩ := ih hrest
      refine ⟨_, last, (Run.snoc .nil (hnext s l s' hs')).trans hrun, ?_, hlast⟩
      exact List.forall_mem_cons.2 ⟨hl, hall⟩
    · exact hrest.elim

end XGovernor.Lib
