import WeakNet.IncidentLifecycle

/-! The type of an incident decides what it is about: a namespace for an unavailable uplink, a
socket for the other four. Everything the engine keeps and emits fits. -/

namespace WeakNet

namespace IncidentEngine
open Foundation Foundation.OrderedMap Foundation.Runs

structure Fitting (w : Working) : Prop where
  keys : ∀ key record, w.engine.records.find? key = some record → key.scope.fits key.type
  records : ∀ key record, w.engine.records.find? key = some record → record.active = true →
    record.observation.type = key.type ∧ record.observation.scope = key.scope
  emissions : ∀ o ∈ w.emissions, o.scope.fits o.type

variable {w : Working} {key : IncidentKey} {o : IncidentObservation}

section Moves
variable {record : IncidentRecord}
theorem appendEvidence_about (policy : IncidentPolicy) (o : IncidentObservation)
    (evidence : IncidentEvidence) : (appendEvidence policy o evidence).type = o.type ∧
      (appendEvidence policy o evidence).scope = o.scope := by
  have hcore := (appendEvidence_frame policy o evidence).2.2.2
  exact ⟨congrArg (fun c => c.1) hcore, congrArg (fun c => c.2.1) hcore⟩

section
variable (h : Fitting w)
include h
theorem Fitting.setRecord (record : IncidentRecord) (hkey : key.scope.fits key.type)
    (hrecord : record.active → record.observation.type = key.type ∧ record.observation.scope
      = key.scope) :
    Fitting (w.setRecord key record) := by
  refine ⟨fun k r hk => ?_, fun k r hk hactive => ?_, h.emissions⟩ <;>
    rw [Working.setRecord, find?_insert] at hk
  · split_ifs at hk with hkk
    · exact hkk ▸ hkey
    · exact h.keys k r hk
  · split_ifs at hk with hkk
    · cases hk
      exact hkk ▸ hrecord hactive
    · exact h.records k r hk hactive

theorem Fitting.eraseRecord (key : IncidentKey) : Fitting (w.eraseRecord key) := by
  refine ⟨fun k r hk => ?_, fun k r hk hactive => ?_, h.emissions⟩ <;>
    rw [Working.eraseRecord, find?_erase] at hk
  · split_ifs at hk
    exact h.keys k r hk
  · split_ifs at hk
    exact h.records k r hk hactive

theorem Fitting.emit (ho : o.scope.fits o.type) : Fitting (w.emit o) := by
  refine ⟨h.keys, h.records, List.forall_mem_append.mpr ⟨h.emissions, ?_⟩⟩
  exact List.forall_mem_singleton.mpr ho

theorem Fitting.of_records {w' : Working} (hrecords : w'.engine.records = w.engine.records)
    (hemit : w'.emissions = w.emissions) :
    Fitting w' :=
  ⟨hrecords ▸ h.keys, hrecords ▸ h.records, hemit ▸ h.emissions⟩

theorem Fitting.resolveRecordLocked
    (hrecord : record.observation.scope.fits record.observation.type) (realtime : RealtimeTime)
    (monotonic : MonotonicTime) (condition : String) :
    Fitting (w.resolveRecordLocked key record realtime monotonic condition) := by
  apply Fitting.eraseRecord
  apply Fitting.emit
  · exact h.of_records rfl rfl
  · exact hrecord

theorem Fitting.active (hfind : w.engine.records.find? key = some record)
    (hactive : record.active) :
    record.observation.scope.fits record.observation.type := by
  obtain ⟨htype, hscope⟩ := h.records key record hfind hactive
  rw [htype, hscope]
  exact h.keys key record hfind
end

theorem Fitting.resolvable : Resolvable Fitting :=
  ⟨fun _ _ _ realtime monotonic condition hfind hactive h =>
      h.resolveRecordLocked (h.active hfind hactive) realtime monotonic condition,
    fun _ key _ _ _ h => h.eraseRecord key, fun _ _ h => h.of_records rfl rfl⟩
end Moves

section Evaluate
variable {netns : NetnsId} {evidence : IncidentEvidence} {severity : IncidentSeverity}
    {completeness : IncidentEvidenceCompleteness}
theorem Fitting.openAt (h : Fitting w) (hopen : w.engine.openAt key = some o) :
    o.type = key.type ∧ o.scope = key.scope := by
  obtain ⟨record, hfind, hrecord⟩ := Option.bind_eq_some_iff.mp hopen
  by_cases hactive : record.active
  · rw [IncidentRecord.openObservation_of_active hactive] at hrecord
    cases hrecord
    exact h.records key record hfind hactive
  · rw [IncidentRecord.openObservation_of_not_active hactive] at hrecord
    cases hrecord

theorem Fitting.evaluateLocked (h : Fitting w) (evaluation : Evaluation)
    (hkey : key.scope.fits key.type) : Ends Fitting Fitting
      (w.evaluateLocked key netns evaluation evidence severity completeness) := by
  generalize hresult : w.evaluateLocked .. = result
  -- a record that shows what was open before
  have hcounted : ∀ {record : IncidentRecord},
      record.openObservation = w.engine.openAt key → Fitting (w.setRecord key record) := by
    intro record hsame
    apply h.setRecord record hkey
    intro hactive
    rw [IncidentRecord.openObservation_of_active hactive] at hsame
    exact h.openAt hsame.symm
  cases evaluateLocked_evaluated hresult with
  | silent => exact h
  | counted _ hsame => exact hcounted hsame
  | forgotten _ => exact h.eraseRecord key
  | updated o record _ hopen _ hrecord =>
    obtain ⟨htype, hscope⟩ := h.openAt hopen
    obtain ⟨htype', hscope'⟩ := appendEvidence_about w.engine.policy.toIncidentPolicy o evidence
    have habout : record.observation.type = key.type ∧ record.observation.scope = key.scope := by
      rw [hrecord]
      exact ⟨htype'.trans htype, hscope'.trans hscope⟩
    apply (h.setRecord record hkey fun _ => habout).emit
    rw [habout.1, habout.2]
    exact hkey
  | recovered o _ _ hopen hrecord =>
    obtain ⟨htype, hscope⟩ := h.openAt hopen
    obtain ⟨htype', hscope'⟩ := appendEvidence_about w.engine.policy.toIncidentPolicy o evidence
    apply h.resolveRecordLocked
    rw [hrecord, htype', hscope', htype, hscope]
    exact hkey
  | opened record _ _ _ _ hrecord =>
    have habout : record.observation.type = key.type ∧ record.observation.scope = key.scope := by
      rw [hrecord]
      exact appendEvidence_about ..
    have hset := h.setRecord record hkey fun _ => habout
    apply Fitting.emit
    · exact hset.of_records rfl rfl
    · rw [habout.1, habout.2]
      exact hkey
  | exhausted _ _ _ =>
    obtain ⟨record', hsame, hw⟩ := evaluateLocked_error hresult
    exact hw ▸ hcounted hsame
end Evaluate

theorem Fitting.dispatch (h : Fitting w) {event : NetworkEvent} {result : Except Working Working}
    (hresult : w.dispatch event = some result) :
    Ends Fitting Fitting result :=
  dispatch_rule Fitting.resolvable
    (fun _ _ _ evaluation _ _ _ hkey _ h => h.evaluateLocked evaluation hkey) h hresult

theorem fitting_initial (policy : AcceptedPolicy) : Fitting ⟨initial policy, []⟩ := by
  refine ⟨fun k r hk => ?_, fun k r hk => ?_, List.forall_mem_nil _⟩
  all_goals cases hk

/-- What a call emits is added to the log, also if the call throws. -/
def Fitting.Logged (log : List IncidentObservation) (w : Working) : Prop :=
  Fitting ⟨w.engine, []⟩ ∧ ∀ o ∈ log ++ w.emissions, o.scope.fits o.type

theorem Fitting.logged {engine : IncidentEngine} (h : Fitting ⟨engine, []⟩)
    {log : List IncidentObservation} (hlog : ∀ o ∈ log, o.scope.fits o.type)
    {event : NetworkEvent} {result : Except Working Working}
    (hresult : Working.dispatch ⟨engine, []⟩ event = some result) :
    Ends (Logged log) (Logged log) result := by
  have hends := h.dispatch hresult
  cases result with
  | ok | error =>
    exact ⟨⟨hends.keys, hends.records, List.forall_mem_nil _⟩,
      List.forall_mem_append.mpr ⟨hlog, hends.emissions⟩⟩

theorem trace_fits (policy : AcceptedPolicy) (events : List NetworkEvent) :
    ((trace policy events).threw = false → Fitting ⟨(trace policy events).engine, []⟩) ∧
      ∀ o ∈ (trace policy events).log, o.scope.fits o.type := by
  apply run_invariant (P := fun s : Trace => (s.threw = false → Fitting ⟨s.engine, []⟩) ∧
    ∀ o ∈ s.log, o.scope.fits o.type)
  · intro s event hs
    obtain ⟨hstate, hlog⟩ := hs
    cases hthrew : s.threw with
    | true =>
      rw [Trace.step, if_pos hthrew]
      exact ⟨hstate, hlog⟩
    | false =>
      have hbefore := hstate hthrew
      rw [Trace.step, if_neg (by simp [hthrew]), process]
      cases hd : Working.dispatch ⟨s.engine, []⟩ event with
      | none => exact ⟨fun _ => hbefore, by simpa using hlog⟩
      | some result =>
        have hends := hbefore.logged hlog hd
        cases result with
        | error _ => exact ⟨fun h => absurd h (by simp), hlog⟩
        | ok _ => exact ⟨fun _ => hends.1, hends.2⟩
  · exact ⟨fun _ => fitting_initial policy, List.forall_mem_nil _⟩
end IncidentEngine
end WeakNet
