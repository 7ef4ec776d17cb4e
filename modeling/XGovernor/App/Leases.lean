import Mathlib.Data.List.Induction
import Mathlib.Logic.Function.Basic

/-!
# Session leases

The lease table says which client may write to a session.  Its holder refreshes the entry with
heartbeats; an entry that nobody has refreshed for longer than the threshold may be taken over.
Every call reads the clock and the entry of its session in one step, under the lock of its shard.

A new session is entered without a holder, with an empty client id.  No check makes an exception
for such an entry, so it keeps everybody out until it is stale.
-/

namespace XGovernor.App

open Function

structure SessionLease where
  clientId : String
  clientPid : Option Nat
  clientHostname : Option String
  lastHeartbeatMs : Nat
  deriving DecidableEq

def SessionLease.isStale (lease : SessionLease) (now threshold : Nat) : Bool :=
  lease.lastHeartbeatMs = 0 || now - lease.lastHeartbeatMs > threshold

/-- The answer `Busy`: the recorded lease, and what it says about being stale. -/
structure LeaseBusy where
  holder : SessionLease
  stale : Bool
  deriving DecidableEq

inductive LeaseCall where
  | acquire (clientId : String) (pid : Option Nat) (hostname : Option String)
  | ensureUnclaimed
  | heartbeat (clientId : String) (pid : Option Nat) (hostname : Option String)
  | detach (clientId : String)
  | checkHolder (clientId : Option String)
  | checkOrTakeoverHolder (clientId : Option String)
  | remove
  deriving DecidableEq

/-- What a call at `now` answers, and what it makes of the entry of its session. -/
def LeaseCall.run (threshold now : Nat) (entry : Option SessionLease) :
    LeaseCall → Except LeaseBusy Unit × Option SessionLease
  | acquire client pid hostname =>
    match entry with
    | none => (.ok (), some ⟨client, pid, hostname, now⟩)
    | some lease =>
      if lease.clientId = client then
        (.ok (), some
          { lease with
            lastHeartbeatMs := now
            clientPid := pid <|> lease.clientPid
            clientHostname := hostname <|> lease.clientHostname })
      else if lease.isStale now threshold then (.ok (), some ⟨client, pid, hostname, now⟩)
      else (.error ⟨lease, false⟩, entry)
  | ensureUnclaimed => (.ok (), some (entry.getD ⟨"", none, none, now⟩))
  | heartbeat client pid hostname =>
    match entry with
    | none => (.ok (), some ⟨client, pid, hostname, now⟩)
    | some lease =>
      if lease.clientId = client then (.ok (), some { lease with lastHeartbeatMs := now })
      else (.error ⟨lease, lease.isStale now threshold⟩, entry)
  | detach client => (.ok (), entry.filter fun lease => lease.clientId ≠ client)
  | checkHolder client =>
    match entry with
    | none => (.ok (), none)
    | some lease =>
      if client = some lease.clientId ∨ lease.isStale now threshold then (.ok (), entry)
      else (.error ⟨lease, false⟩, entry)
  | checkOrTakeoverHolder client =>
    match entry with
    | none => (.ok (), none)
    | some lease =>
      if client = some lease.clientId then (.ok (), entry)
      else if lease.isStale now threshold then
        match client.filter (· ≠ "") with
        | some client => (.ok (), some ⟨client, none, none, now⟩)
        | none => (.ok (), entry)
      else (.error ⟨lease, false⟩, entry)
  | remove => (.ok (), none)

/-- A call on the entry of a session. -/
structure LeaseEvent where
  session : String
  now : Nat
  call : LeaseCall
  deriving DecidableEq

/-- The call is an `acquire` or a `heartbeat` of the client that is accepted, or its takeover. -/
def LeaseCall.refreshes (threshold now : Nat) (entry : Option SessionLease) (call : LeaseCall)
    (client : String) : Bool :=
  match call with
  | acquire client' _ _ | heartbeat client' _ _ =>
    client' = client && (call.run threshold now entry).1.isOk
  | checkOrTakeoverHolder client' =>
    client' = some client && (call.run threshold now entry).2 ≠ entry
  | _ => false

/-- The entries of the table, and when the clients last refreshed them. -/
structure LeaseHistory where
  table : String → Option SessionLease
  refreshed : String → String → Option Nat

def LeaseHistory.next (threshold : Nat) (h : LeaseHistory) (e : LeaseEvent) : LeaseHistory where
  table := update h.table e.session (e.call.run threshold e.now (h.table e.session)).2
  refreshed := update h.refreshed e.session fun client =>
    if e.call.refreshes threshold e.now (h.table e.session) client then some e.now
    else h.refreshed e.session client

/-- The history of some calls, in their order. -/
def leaseHistory (threshold : Nat) (events : List LeaseEvent) : LeaseHistory :=
  events.foldl (LeaseHistory.next threshold) ⟨fun _ => none, fun _ _ => none⟩

/-! ## One holder -/

/-- An entry with a holder is as old as the last refresh of its holder. -/
def UpToDate (entry : Option SessionLease) (refreshed : String → Option Nat) : Prop :=
  ∀ lease, entry = some lease → 0 < lease.lastHeartbeatMs ∧
    (lease.clientId ≠ "" → refreshed lease.clientId = some lease.lastHeartbeatMs)

section Holder

variable {threshold now : Nat} {entry : Option SessionLease} {refreshed : String → Option Nat}

theorem UpToDate.run (h : UpToDate entry refreshed) (hpos : 0 < now) (call : LeaseCall) :
    UpToDate (call.run threshold now entry).2 fun client =>
      if call.refreshes threshold now entry client then some now else refreshed client := by
  cases entry <;> cases call <;> simp only [LeaseCall.refreshes, LeaseCall.run] <;>
    grind [UpToDate, Except.toBool, Option.filter_eq_some_iff]

/-- A call leaves the entry to its holder, drops it, or comes late enough to take it over. -/
theorem UpToDate.run_cases {lease} (h : UpToDate (some lease) refreshed)
    (hholder : lease.clientId ≠ "") (call : LeaseCall) :
    (∃ lease', (call.run threshold now (some lease)).2 = some lease' ∧
      lease'.clientId = lease.clientId) ∨
    ((call.run threshold now (some lease)).2 = none ∧
      (call = .remove ∨ call = .detach lease.clientId)) ∨
    ∃ time, refreshed lease.clientId = some time ∧ time + threshold < now := by
  cases call <;> simp only [LeaseCall.run] <;> grind [UpToDate, SessionLease.isStale]

theorem LeaseHistory.upToDate_of_events (threshold) {events}
    (hpos : ∀ e ∈ events, 0 < e.now) (session : String) :
    UpToDate ((leaseHistory threshold events).table session)
      ((leaseHistory threshold events).refreshed session) := by
  induction events using List.reverseRecOn with
  | nil => nofun
  | append_singleton events e ih =>
    have hpast := ih fun e' he' => hpos e' (List.mem_append_left _ he')
    rw [leaseHistory, List.foldl_append]
    by_cases hses : session = e.session
    · subst hses
      simp only [List.foldl_cons, List.foldl_nil, next, update_self]
      exact hpast.run (hpos e (by simp)) e.call
    · simp only [List.foldl_cons, List.foldl_nil, next, update_of_ne hses]
      exact hpast

end Holder

/-- **One holder**: in every sequence of calls, a client stops being the holder of a session only
if it detaches, if the entry is removed, or if more than the threshold has passed since its last
refresh. -/
theorem lease_single_holder (threshold : Nat) (events : List LeaseEvent) (e : LeaseEvent)
    (hpos : ∀ e' ∈ events, 0 < e'.now) (session : String) (lease : SessionLease)
    (hlease : (leaseHistory threshold events).table session = some lease)
    (hholder : lease.clientId ≠ "") :
    let next := (leaseHistory threshold (events ++ [e])).table session
    (∃ lease', next = some lease' ∧ lease'.clientId = lease.clientId) ∨
    (next = none ∧ e.session = session ∧ (e.call = .remove ∨ e.call = .detach lease.clientId)) ∨
    ∃ time, (leaseHistory threshold events).refreshed session lease.clientId = some time ∧
      time + threshold < e.now := by
  have hcurrent := LeaseHistory.upToDate_of_events threshold hpos session
  intro next
  by_cases hses : session = e.session
  · subst hses
    have hnext : next = (e.call.run threshold e.now (some lease)).2 := by
      simp [next, leaseHistory, LeaseHistory.next, ← hlease]
    rw [hnext]
    rw [hlease] at hcurrent
    simpa using hcurrent.run_cases hholder e.call
  · refine .inl ⟨lease, ?_, rfl⟩
    simp [next, leaseHistory, LeaseHistory.next, hses, ← hlease]

/-- A client that went quiet loses its lease to a second one. -/
theorem lease_taken_over : let first := LeaseEvent.mk "s" 1 (.acquire "a" none none)
    ∃ time, (leaseHistory 45000 [first]).refreshed "s" "a" = some time ∧ time + 45000 < 50000 := by
  intro first
  rcases lease_single_holder 45000 [first] ⟨"s", 50000, .acquire "b" none none⟩ (by decide) "s"
    ⟨"a", none, none, 1⟩ rfl (by decide) with ⟨lease, hlease, hclient⟩ | ⟨hnone, -⟩ | hpast
  · obtain rfl := Option.some.inj hlease
    exact absurd hclient (by decide)
  · exact absurd hnone (by decide)
  · exact hpast

/-! ## Entries without a holder -/

/-- What a call on an entry without a holder should come to: a heartbeat makes its client the
holder, and the checks accept their caller. -/
def LeaseCall.Passes (threshold now : Nat) (entry : Option SessionLease)
    (call : LeaseCall) : Prop :=
  (call.run threshold now entry).1 = .ok () ∧
    ∀ client pid hostname, call = .heartbeat client pid hostname →
      (call.run threshold now entry).2.map (·.clientId) = some client

/-- **Entries without a holder** are treated like those of a client with the empty id: they refuse
the heartbeat of every other client, and every check of another caller until they are stale. -/
theorem unclaimed_passes_iff (threshold now : Nat) (pid : Option Nat) (hostname : Option String)
    (time : Nat) (call : LeaseCall) :
    let lease : SessionLease := ⟨"", pid, hostname, time⟩
    call.Passes threshold now (some lease) ↔ match call with
      | .heartbeat client _ _ => client = ""
      | .acquire client _ _ => client = "" ∨ lease.isStale now threshold
      | .checkHolder caller | .checkOrTakeoverHolder caller =>
        caller = some "" ∨ lease.isStale now threshold
      | .ensureUnclaimed | .detach _ | .remove => True := by
  cases call <;> simp only [LeaseCall.Passes, LeaseCall.run] <;> grind

/-- A session that was just entered refuses its first heartbeat and its first turn. -/
theorem unclaimed_refuses :
    let entry := (leaseHistory 45000 [⟨"s", 1, .ensureUnclaimed⟩]).table "s"
    ¬ (LeaseCall.heartbeat "client" none none).Passes 45000 1 entry ∧
      ¬ (LeaseCall.checkHolder (some "client")).Passes 45000 1 entry ∧
      ¬ (LeaseCall.checkOrTakeoverHolder none).Passes 45000 1 entry :=
  ⟨fun h => absurd h.1 (by decide), fun h => absurd h.1 (by decide),
    fun h => absurd h.1 (by decide)⟩

end XGovernor.App
