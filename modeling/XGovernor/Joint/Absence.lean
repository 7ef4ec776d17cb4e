import XGovernor.Joint.Bindings
import XGovernor.Joint.Refinement

/-!
# Release needs exact absence

The history of a run is the list of sightings and absences its reports recorded.  The objects
of the ledger agree with the history: an object that was ever sighted has a row, and the row
is marked absent exactly when the last event about the object is an absence.  A binding is
removed only when every object of it is absent, and nothing is written for it afterwards.
-/

namespace XGovernor.Joint.Ledger

open Domain Lib Function

variable {L L' : Ledger} {event : Event} {objects : ObjectKey → Option ObjectRow}
  {history : List (ObjectKey × Sighting)} {admission : JointAdmission} {key : ObjectKey}
  {op : OperationRow}

/-! ## The history of objects -/

/-- The sightings of an event. -/
def Event.recorded : Event → List (ObjectKey × Sighting)
  | sightings events => events
  | _ => []

/-- The last event about an object. -/
def lastSighting (key : ObjectKey) (history : List (ObjectKey × Sighting)) : Option Sighting :=
  (history.filter fun event => event.1 = key).getLast?.map (·.2)

private theorem lastSighting_append_self (key history sighting) :
    lastSighting key (history ++ [(key, sighting)]) = some sighting := by
  simp [lastSighting]

private theorem lastSighting_append_of_ne {new} (hne : new.1 ≠ key) (history) :
    lastSighting key (history ++ [new]) = lastSighting key history := by
  simp [lastSighting, hne]

/-- The objects agree with the history. -/
def Tracks (history : List (ObjectKey × Sighting)) (objects : ObjectKey → Option ObjectRow) :
    Prop :=
  ∀ key, (key, .present) ∈ history → ∃ row, objects key = some row ∧
    (row.absent = true ↔ lastSighting key history = some .absent)

/-- One sighting keeps the agreement. -/
private theorem Tracks.observed (h : Tracks history objects) (rootId : String)
    (new : ObjectKey × Sighting) : Tracks (history ++ [new]) (observed rootId objects new) := by
  obtain ⟨newKey, sighting⟩ := new
  intro key hkey
  by_cases hne : newKey = key
  · subst hne
    rw [lastSighting_append_self]
    cases sighting with
    | present => exact ⟨_, update_self .., by simp⟩
    | absent =>
      obtain ⟨row, hrow, -⟩ := h newKey (by simpa using hkey)
      exact ⟨{ row with absent := true }, by simp [Ledger.observed, hrow], by simp⟩
  · rw [lastSighting_append_of_ne hne]
    have hold : (key, Sighting.present) ∈ history := by
      simpa [Ne.symm hne] using hkey
    obtain ⟨row, hrow, habs⟩ := h key hold
    refine ⟨row, ?_, habs⟩
    cases sighting with
    | present => exact (update_of_ne (Ne.symm hne) _ _).trans hrow
    | absent => simp [Ledger.observed, hrow, Ne.symm hne]

private theorem Tracks.foldl (h : Tracks history objects) (rootId : String)
    (events : List (ObjectKey × Sighting)) :
    Tracks (history ++ events) (events.foldl (Ledger.observed rootId) objects) := by
  induction events generalizing history objects with
  | nil => simpa using h
  | cons event rest ih =>
    have hrest := ih (h.observed rootId event)
    rwa [List.append_assoc] at hrest

/-- **Objects**: a step writes the objects that its event is about, and no others. -/
theorem Step.objects_eq (h : Step L event L') :
    ∃ rootId, L'.objects = event.recorded.foldl (observed rootId) L.objects := by
  cases h with
  | @record _ _ op => exact ⟨op.request.rootId, rfl⟩
  | _ => exact ⟨"", rfl⟩

/-- In every run the objects agree with the history. -/
theorem tracks_of_run {tr} (h : Run Step Ledger.empty tr L) :
    Tracks (tr.flatMap fun e => e.2.recorded) L.objects := by
  refine h.history_invariant
    (P := fun tr L => Tracks (tr.flatMap fun e => e.2.recorded) L.objects) (by simp [Tracks]) ?_
  intro tr L event L' _ htracks hstep
  obtain ⟨rootId, hobjects⟩ := hstep.objects_eq
  rw [hobjects, List.flatMap_append, List.flatMap_singleton]
  exact htracks.foldl rootId event.recorded

/-! ## Removed bindings are left alone -/

/-- The binding is removed. -/
def Removed (L : Ledger) (id : String) : Prop :=
  ∃ row, L.bindings id = some row ∧ row.state = .removed

theorem Step.removed (h : Step L event L') {id} (hremoved : L.Removed id) :
    L'.Removed id := by
  obtain ⟨row, hrow, hstate⟩ := hremoved
  obtain ⟨row', hrow', hmove⟩ := h.bindings.stays hrow
  exact ⟨row', hrow', hmove.change.removed_stays hstate⟩

/-- An operation that runs is not on a removed binding. -/
private theorem Runs.not_removed
    (runs : L.Runs admission op) : ¬ L.Removed admission.binding.bindingId := by
  rintro ⟨row, hrow, hstate⟩
  obtain ⟨row', hrow', -, hlive⟩ := runs.fenced.binding
  exact hlive (Option.mem_unique hrow' hrow ▸ hstate)

private theorem foldl_observed_of_ne {rootId : String} {events : List (ObjectKey × Sighting)}
    (hne : ∀ event ∈ events, event.1 ≠ key) (objects) :
    events.foldl (observed rootId) objects key = objects key := by
  induction events generalizing objects with
  | nil => rfl
  | cons event rest ih =>
    have hevent := hne event (by simp)
    rw [List.foldl_cons, ih (fun e he => hne e (by simp [he]))]
    obtain ⟨newKey, sighting⟩ := event
    cases sighting with
    | present => exact update_of_ne (Ne.symm hevent) _ _
    | absent =>
      cases hrow : objects key <;> simp [observed, hrow, Ne.symm hevent]

private theorem bindingId_of_mem_sightingsOf
    {native state resources event} (h : event ∈ sightingsOf admission native state resources) :
    event.1.bindingId = admission.binding.bindingId := by
  obtain ⟨resource, -, hevent⟩ := List.mem_filterMap.1 h
  unfold sightingOf at hevent
  split at hevent
  · rw [← Option.some.inj hevent]
  · split at hevent
    · rw [← Option.some.inj hevent]
    · exact absurd hevent (by simp)

/-- **Objects of a removed binding** are left alone. -/
theorem Step.object_frozen (h : Step L event L')
    (hremoved : L.Removed key.bindingId) : L'.objects key = L.objects key := by
  cases h with
  | record runs =>
    refine foldl_observed_of_ne (fun event hmem heq => ?_) _
    have hbind := bindingId_of_mem_sightingsOf hmem
    rw [heq] at hbind
    exact runs.toRuns.not_removed (hbind ▸ hremoved)
  | _ => rfl

/-- No operation is admitted on a removed binding. -/
theorem Step.operation_frozen (h : Step L event L') (sound : L.Sound) {id op'}
    (hop' : L'.operations id = some op')
    (hremoved : L.Removed op'.admission.binding.bindingId) :
    ∃ op, L.operations id = some op ∧
      op.admission.binding.bindingId = op'.admission.binding.bindingId := by
  rcases (h.operations sound).origin hop' with ⟨-, hnew⟩ | ⟨op, hop, hcont, -⟩
  · obtain ⟨row, hrow, hlive⟩ := hnew.live
    obtain ⟨row', hrow', hstate⟩ := h.removed hremoved
    exact absurd (Option.mem_unique hrow' hrow ▸ hstate) hlive
  · exact ⟨op, hop, by rw [hcont.binding]⟩

/-- **Native steps of a removed binding** are left alone. -/
theorem Step.step_frozen (h : Step L event L') {id}
    (hop : L.operations id = some op) (hremoved : L.Removed op.admission.binding.bindingId)
    (name : String) : L'.steps (id, name) = L.steps (id, name) := by
  -- only an operation that runs has its native steps written
  have hworks : ¬ WorksFor L L' id := by
    intro hworks
    cases hworks with
    | running runs intent =>
      subst intent
      cases runs.stored.symm.trans hop
      exact runs.not_removed (runs.token ▸ hremoved)
    | admitted fresh => cases fresh.symm.trans hop
  cases hrow : L.steps (id, name) with
  | some row =>
    obtain ⟨row', hrow', hmove⟩ := h.steps.stays hrow
    rw [hrow', hmove.works.resolve_right hworks]
  | none =>
    by_contra hsome
    obtain ⟨row', hrow'⟩ := Option.ne_none_iff_exists'.1 hsome
    exact hworks (h.steps.new hrow hrow').works

/-! ## Removed bindings are empty -/

/-- Every object of a removed binding is absent. -/
def Emptied (L : Ledger) : Prop :=
  ∀ id row, L.bindings id = some row → row.state = .removed → L.AllAbsent id row.generation

theorem Emptied.step (hemptied : L.Emptied) (h : Step L event L') : L'.Emptied := by
  intro id row' hrow' hstate
  rcases h.bindings.origin hrow' with ⟨-, hnew⟩ | ⟨row, hrow, hmove⟩
  · simp [hnew.prepared] at hstate
  · rw [hmove.continues.generation]
    cases hmove.change with
    | same state_eq =>
      have hremoved := state_eq.symm.trans hstate
      intro key object hobj hbind
      subst hbind
      rw [h.object_frozen ⟨row, hrow, hremoved⟩] at hobj
      exact hemptied _ row hrow hremoved key object hobj rfl
    | published _ after | compensating _ after | releasing _ after => simp [after] at hstate
    | removed _ _ absent _ objects_eq =>
      intro key object hobj
      exact absent key object (objects_eq ▸ hobj)

theorem Reached.emptied (h : L.Reached) : L.Emptied :=
  Reachable.invariant (by simp [Emptied, Ledger.empty])
    (fun _ _ _ hemptied hstep => hemptied.step hstep) h

end XGovernor.Joint.Ledger

namespace XGovernor.Joint

open Domain Lib
open Ledger (Sighting lastSighting)

/-! ## Absence in the store -/

/-- The events that the reports of a run recorded about objects, in order: sightings by create
steps, and absences by completed observations.  A report that repeats the stored one records
nothing. -/
def recordedEvents (tr : List (Db × (Call × Reply))) : List (ObjectKey × Sighting) :=
  tr.flatMap fun e => (eventOf e.1 e.2).recorded

/-- Nothing is written for a removed binding: its objects and the native steps of its
operations stay as they are, and no operation is admitted on it. -/
private theorem frozen_of_run {config s s' tr} (h : StoreReachable config s)
    (hrun : Run (Commit config) s tr s') {id} (hremoved : s.ledger.Removed id) :
    s'.ledger.Removed id ∧
    (∀ key : ObjectKey, key.bindingId = id → s'.objects.get? key = s.objects.get? key) ∧
    ∀ opId op', s'.operations.get? opId = some op' → op'.admission.binding.bindingId = id →
      (∃ op, s.operations.get? opId = some op ∧ op.admission.binding.bindingId = id) ∧
        ∀ name, s'.steps.get? (opId, name) = s.steps.get? (opId, name) := by
  induction hrun with
  | nil =>
    exact ⟨hremoved, fun _ _ => rfl, fun opId op' hop' hbind =>
      ⟨⟨op', hop', hbind⟩, fun _ => rfl⟩⟩
  | @snoc _ t _ _ hrun hcom ih =>
    obtain ⟨hremoved', hobjects, hsteps⟩ := ih
    have sound := (ledger_reached (h.run hrun)).sound
    have hstep := commit_refines hcom
    refine ⟨hstep.removed hremoved', fun key hkey => ?_, fun opId op'' hop'' hbind => ?_⟩
    · exact (hstep.object_frozen (hkey ▸ hremoved')).trans (hobjects key hkey)
    · obtain ⟨op', hop', hsame⟩ := hstep.operation_frozen sound hop'' (hbind ▸ hremoved')
      have hbind' := hsame.trans hbind
      obtain ⟨hop, hrows⟩ := hsteps opId op' hop' hbind'
      exact ⟨hop, fun name =>
        (hstep.step_frozen hop' (hbind' ▸ hremoved') name).trans (hrows name)⟩

/-- **Release needs exact absence**: when a run has removed a binding, the last event that was
recorded about every object its create steps ever reported is an absence; and no run from there
changes the objects of the binding or the native steps of its operations, or admits an
operation on it. -/
theorem removal_needs_absence {config : StoreConfig} {tr : List (Db × (Call × Reply))} {s : Db}
    (h : Run (Commit config) Db.empty tr s) {id : String} {row : BindingRow}
    (hrow : s.bindings.get? id = some row) (hremoved : row.state = .removed) :
    (∀ key : ObjectKey, key.bindingId = id → key.generation = row.generation →
      (key, .present) ∈ recordedEvents tr → lastSighting key (recordedEvents tr) = some .absent) ∧
    ∀ tr' s', Run (Commit config) s tr' s' →
      (∀ key : ObjectKey, key.bindingId = id → s'.objects.get? key = s.objects.get? key) ∧
      ∀ opId op', s'.operations.get? opId = some op' → op'.admission.binding.bindingId = id →
        (∃ op, s.operations.get? opId = some op ∧ op.admission.binding.bindingId = id) ∧
          ∀ name, s'.steps.get? (opId, name) = s.steps.get? (opId, name) := by
  have hreachable : StoreReachable config s := ⟨tr, h⟩
  refine ⟨fun key hbind hgen hpres => ?_, fun tr' s' hrun => ?_⟩
  · have htracks := Ledger.tracks_of_run (run_refines h)
    rw [List.flatMap_map] at htracks
    obtain ⟨object, hobj, habs⟩ := htracks key hpres
    exact habs.1 ((ledger_reached hreachable).emptied id row hrow hremoved key object hobj
      hbind hgen)
  · exact (frozen_of_run hreachable hrun ⟨row, hrow, hremoved⟩).2

/-- A session that was opened and closed: its Root was sighted, and is last known absent. -/
theorem removal_of_closed_session :
    let key : ObjectKey := ⟨"binding", 1, "root", "object"⟩
    let events := recordedEvents (traceAll smallConfig (openCalls ++ closeCalls) Db.empty)
    (key, .present) ∈ events ∧ lastSighting key events = some .absent := by
  intro key events
  have hpres : (key, .present) ∈ events := by decide +kernel
  obtain ⟨row, hrow, hremoved, hgen⟩ :
      ∃ row, (execAll smallConfig (openCalls ++ closeCalls) Db.empty).bindings.get? "binding" =
        some row ∧ row.state = .removed ∧ row.generation = 1 := by
    decide +kernel
  exact ⟨hpres, (removal_needs_absence (run_execAll smallConfig _ Db.empty) hrow hremoved).1
    key rfl hgen.symm hpres⟩

end XGovernor.Joint
