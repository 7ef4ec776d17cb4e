import Mathlib.Logic.Function.Basic
import Mathlib.Algebra.Group.Nat.Defs

/-!
# Rate limiter

The requests of a tenant are counted in fixed windows of sixty seconds.  A window begins with the
first request that comes after the end of the one before, so the windows of a tenant begin at
least sixty seconds apart, and an interval of sixty seconds meets two of them at most.
-/

namespace XGovernor.Server

open Function

/-- One tenant's current fixed-window request count. -/
structure RateWindow where
  windowStart : Nat
  count : Nat
  deriving DecidableEq, Repr

/-- Sixty seconds, in nanoseconds. -/
def rateLimitWindow : Nat := 60 * 10 ^ 9

/-- What a request that comes at `now` makes of its tenant's window, and the decision on it. -/
def RateWindow.check (window : Option RateWindow) (now maxPerMinute : Nat) : Bool × RateWindow :=
  let window := window.getD ⟨now, 0⟩
  let window := if now - window.windowStart ≥ rateLimitWindow then ⟨now, 0⟩ else window
  if window.count ≥ maxPerMinute then (false, window)
  else (true, { window with count := window.count + 1 })

/-- Fixed-window check of a request that comes at `now`. -/
def checkRateLimit (windows : String → Option RateWindow) (now : Nat) (tenantId : String)
    (maxPerMinute : Nat) : Bool × (String → Option RateWindow) :=
  let (accepted, window) := RateWindow.check (windows tenantId) now maxPerMinute
  (accepted, update windows tenantId (some window))

structure Request where
  tenantId : String
  now : Nat
  maxPerMinute : Nat
  deriving DecidableEq, Repr

/-- The requests in their order, with the decisions on them. -/
def decisions (windows : String → Option RateWindow) : List Request → List (Request × Bool)
  | [] => []
  | r :: rest =>
    let (accepted, windows) := checkRateLimit windows r.now r.tenantId r.maxPerMinute
    (r, accepted) :: decisions windows rest

/-- The number of requests that were accepted at such a time. -/
def accepted (answers : List (Request × Bool)) (p : Nat → Prop) [DecidablePred p] : Nat :=
  answers.countP fun x => x.2 && decide (p x.1.now)

/-- What the limiter owes to a tenant. -/
structure Fair (m : Nat) (answers : List (Request × Bool)) : Prop where
  interval : ∀ a, accepted answers (fun now => a ≤ now ∧ now ≤ a + rateLimitWindow) ≤ 2 * m
  rejected : ∀ before r after, answers = before ++ (r, false) :: after →
    m ≤ accepted before fun now => now ≤ r.now ∧ r.now ≤ now + rateLimitWindow

variable {m : Nat} {w : RateWindow} {window : Option RateWindow} {t : String} {r : Request}
  {past : List (Request × Bool)} {p q : Nat → Prop} [DecidablePred p] [DecidablePred q]

theorem accepted_snoc (answer : Bool) : accepted (past ++ [(r, answer)]) p =
    accepted past p + if answer = true ∧ p r.now then 1 else 0 := by
  simp [accepted, List.countP_append, List.countP_cons]

theorem accepted_mono (h : ∀ x ∈ past, p x.1.now → q x.1.now) :
    accepted past p ≤ accepted past q :=
  List.countP_mono_left fun x hx hp => by
    simp only [Bool.and_eq_true, decide_eq_true_eq] at hp ⊢
    exact ⟨hp.1, h x hx hp.2⟩

/-- A tenant's window has the requests accepted since it began, and the sixty seconds before it
began met one window at most. -/
structure RateWindow.Counts (w : RateWindow) (m : Nat) (past : List (Request × Bool)) : Prop where
  limit : w.count ≤ m
  own : accepted past (w.windowStart ≤ ·) = w.count
  since : ∀ a, w.windowStart ≤ a + rateLimitWindow → accepted past (a ≤ ·) ≤ m + w.count
  last : ∀ x ∈ past, x.1.now < w.windowStart + rateLimitWindow

/-- A request is counted in the window of its tenant, or in a new one if there is none or it has
ended. -/
theorem RateWindow.check_cases (now : Nat) (hnone : window = none → past = [])
    (hsome : ∀ w, window = some w → w.Counts m past ∧ w.windowStart ≤ now) :
    ∃ w : RateWindow, w.Counts m past ∧ w.windowStart ≤ now ∧
      now < w.windowStart + rateLimitWindow ∧ check window now m =
        if w.count ≥ m then (false, w) else (true, { w with count := w.count + 1 }) := by
  have hnew : now < now + rateLimitWindow := Nat.lt_add_of_pos_right (by decide)
  cases window with
  | none =>
    obtain rfl := hnone rfl
    exact ⟨⟨now, 0⟩, ⟨by simp, rfl, by simp [accepted], nofun⟩, Nat.le_refl _, hnew,
      by simp [check]⟩
  | some w =>
    obtain ⟨h, hle⟩ := hsome w rfl
    by_cases hold : w.windowStart + rateLimitWindow ≤ now
    · have hlast : ∀ x ∈ past, x.1.now < now := fun x hx => Nat.lt_of_lt_of_le (h.last x hx) hold
      refine ⟨⟨now, 0⟩, ⟨by simp, ?_, fun a ha => ?_, fun x hx => ?_⟩, Nat.le_refl _, hnew, ?_⟩
      · exact List.countP_eq_zero.2 fun x hx => by simp [hlast x hx]
      · have hown : accepted past (a ≤ ·) ≤ accepted past (w.windowStart ≤ ·) :=
          accepted_mono fun x _ hx => by grind
        exact Nat.le_trans hown (h.own ▸ h.limit)
      · exact Nat.lt_trans (hlast x hx) hnew
      · simp [check, show now - w.windowStart ≥ rateLimitWindow by omega]
    · refine ⟨w, h, hle, by omega, ?_⟩
      simp [check, show ¬ now - w.windowStart ≥ rateLimitWindow by omega]

/-- **Step**: a request of the tenant is answered fairly. -/
theorem Fair.snoc (h : Fair m past) (hw : w.Counts m past) (hle : w.windowStart ≤ r.now)
    (hlt : r.now < w.windowStart + rateLimitWindow) (hpast : ∀ x ∈ past, x.1.now ≤ r.now) :
    let x := if w.count ≥ m then (false, w) else (true, { w with count := w.count + 1 })
    x.2.Counts m (past ++ [(r, x.1)]) ∧ Fair m (past ++ [(r, x.1)]) := by
  obtain ⟨hlimit, hown, hsince, hlast⟩ := hw
  have hlast' (answer : Bool) : ∀ x ∈ past ++ [(r, answer)],
      x.1.now < w.windowStart + rateLimitWindow := by
    exact List.forall_mem_append.2 ⟨hlast, by simpa using hlt⟩
  -- a request is the last one or one of the past
  have hsplit (answer : Bool) : (answer = false → m ≤ w.count) → ∀ before q after,
      past ++ [(r, answer)] = before ++ (q, false) :: after →
        m ≤ accepted before fun now => now ≤ q.now ∧ q.now ≤ now + rateLimitWindow := by
    intro hfull before q after heq
    rcases List.eq_nil_or_concat after with rfl | ⟨after, last, rfl⟩
    · obtain ⟨rfl, hq⟩ := List.append_inj' heq rfl
      cases hq
      -- a refused request sees a full window, and the window is not older than a minute
      refine Nat.le_trans (hown ▸ hfull rfl) (accepted_mono fun x hx hx' => ?_)
      exact ⟨hpast x hx, by omega⟩
    · rw [List.concat_eq_append, ← List.cons_append, ← List.append_assoc] at heq
      exact h.rejected before q after (List.append_inj' heq rfl).1
  split
  · rename_i hfull
    refine ⟨⟨hlimit, ?_, fun a ha => ?_, hlast' _⟩, fun a => ?_, hsplit _ fun _ => hfull⟩
    · simpa [accepted_snoc] using hown
    · simpa [accepted_snoc] using hsince a ha
    · simpa [accepted_snoc] using h.interval a
  · refine ⟨⟨?_, ?_, fun a ha => ?_, hlast' _⟩, fun a => ?_, hsplit _ nofun⟩
    · exact Nat.lt_of_not_le ‹_›
    · simp [accepted_snoc, hown, hle]
    · have := hsince a ha
      rw [accepted_snoc]
      grind
    · have := hsince a
      have := h.interval a
      have : accepted past (fun now => a ≤ now ∧ now ≤ a + rateLimitWindow) ≤
        accepted past (a ≤ ·) := accepted_mono fun _ _ hx => hx.1
      rw [accepted_snoc]
      grind

/-- **Run**: the requests of one tenant are answered fairly. -/
theorem fair_decisions {requests} (hclock : requests.Pairwise (·.now ≤ ·.now))
    (hown : ∀ r ∈ requests, r.tenantId = t ∧ r.maxPerMinute = m)
    {windows} (h : Fair m past) (hnone : windows t = none → past = [])
    (hsome : ∀ w, windows t = some w → w.Counts m past ∧ ∀ r ∈ requests, w.windowStart ≤ r.now)
    (hpast : ∀ x ∈ past, ∀ r ∈ requests, x.1.now ≤ r.now) :
    Fair m (past ++ decisions windows requests) := by
  induction requests generalizing windows past with
  | nil => simpa [decisions] using h
  | cons r rest ih =>
    obtain ⟨hfirst, hclock⟩ := List.pairwise_cons.1 hclock
    obtain ⟨⟨rfl, rfl⟩, hown⟩ := List.forall_mem_cons.1 hown
    obtain ⟨w, hw, hle, hlt, hcheck⟩ := RateWindow.check_cases r.now hnone
      fun w hwindow => ⟨(hsome w hwindow).1, (hsome w hwindow).2 r (.head _)⟩
    obtain ⟨hcounts, hfair⟩ := h.snoc hw hle hlt fun x hx => hpast x hx r (.head _)
    have hstart : (RateWindow.check (windows r.tenantId) r.now r.maxPerMinute).2.windowStart =
        w.windowStart := by
      rw [hcheck]
      split <;> rfl
    rw [← hcheck] at hcounts hfair
    rw [decisions, List.append_cons]
    refine ih hclock hown hfair (by simp [checkRateLimit]) (fun v hv => ?_) fun x hx q hq => ?_
    · simp only [checkRateLimit, update_self, Option.some.injEq] at hv
      subst hv
      exact ⟨hcounts, fun q hq => hstart ▸ Nat.le_trans hle (hfirst q hq)⟩
    · rcases List.mem_append.1 hx with hx | hx
      · exact hpast x hx q (.tail _ hq)
      · exact List.mem_singleton.1 hx ▸ hfirst q hq

/-- The decisions on a tenant depend on its own window and requests only. -/
theorem decisions_filter (windows windows' : String → Option RateWindow)
    (hsame : windows t = windows' t) (requests : List Request) :
    (decisions windows requests).filter (·.1.tenantId = t) =
      decisions windows' (requests.filter (·.tenantId = t)) := by
  induction requests generalizing windows windows' with
  | nil => rfl
  | cons r rest ih =>
    by_cases ht : r.tenantId = t
    · subst ht
      simp only [decisions, checkRateLimit, hsame, List.filter_cons, decide_true, if_true,
        List.cons.injEq, true_and]
      exact ih _ _ (by simp)
    · rw [decisions, List.filter_cons_of_neg (by simpa using ht),
        List.filter_cons_of_neg (by simpa using ht)]
      exact ih _ _ ((update_of_ne (Ne.symm ht) ..).trans hsame)

/-- **Rate limiter**: with one limit for a tenant, no sixty seconds have more than twice that many
accepted requests of the tenant, a request is rejected only after as many were accepted in the
sixty seconds before it, and the requests of other tenants make no difference. -/
theorem rate_limit_per_tenant (requests : List Request)
    (hclock : requests.Pairwise (·.now ≤ ·.now)) (t : String) (m : Nat)
    (hlimit : ∀ r ∈ requests, r.tenantId = t → r.maxPerMinute = m) :
    let own := (decisions (fun _ => none) requests).filter (·.1.tenantId = t)
    Fair m own ∧ own = decisions (fun _ => none) (requests.filter (·.tenantId = t)) := by
  have hown := decisions_filter (t := t) (fun _ => none) (fun _ => none) rfl requests
  refine ⟨?_, hown⟩
  rw [hown, ← List.nil_append (decisions ..)]
  refine fair_decisions (t := t) (hclock.filter _) (fun r hr => ?_)
    ⟨by simp [accepted], by simp⟩ (fun _ => rfl) nofun nofun
  obtain ⟨hr, ht⟩ := List.mem_filter.1 hr
  exact ⟨of_decide_eq_true ht, hlimit r hr (of_decide_eq_true ht)⟩

/-- The second of two requests at once is rejected when the limit is one. -/
theorem rate_limit_of_two :
    let own := decisions (fun _ => none) [⟨"t", 0, 1⟩, ⟨"t", 0, 1⟩]
    own = [(⟨"t", 0, 1⟩, true), (⟨"t", 0, 1⟩, false)] ∧ Fair 1 own :=
  ⟨by decide, (rate_limit_per_tenant [⟨"t", 0, 1⟩, ⟨"t", 0, 1⟩] (by decide) "t" 1 (by decide)).1⟩

end XGovernor.Server
