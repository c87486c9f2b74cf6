import WeakNet.IncidentMoves
import WeakNet.Foundation.Lifecycle
import Mathlib.Tactic.NormNum

/-! The active records are the open items of a ledger whose log is everything emitted. Each way a
record changes is silent, or opens, updates or closes one item. -/

namespace WeakNet
open IncidentRecord List Function

def IncidentRecord.openObservation (record : IncidentRecord) : Option IncidentObservation :=
  if record.active then some record.observation else none

variable {record : IncidentRecord}
theorem IncidentRecord.openObservation_of_active (h : record.active) :
    record.openObservation = some record.observation := if_pos h

theorem IncidentRecord.openObservation_of_not_active (h : ¬record.active) :
    record.openObservation = none := if_neg h

namespace IncidentEngine
open Foundation Foundation.OrderedMap Foundation.Runs Foundation.Lifecycle

/-- An incident is numbered by its id and must keep its type, scope and opening times. -/
def reading : Reading IncidentObservation
    (IncidentType × IncidentScope × RealtimeTime × MonotonicTime) where
  tag := IncidentObservation.id
  isOpen o := o.state = .active
  core o := (o.type, o.scope, o.openedAt, o.openedMonotonicAt)

def openAt (e : IncidentEngine) (key : IncidentKey) : Option IncidentObservation :=
  (e.records.find? key).bind IncidentRecord.openObservation

def issued (e : IncidentEngine) : ℕ := (e.nextIncidentId + (2 ^ 64 - 1)) % 2 ^ 64

variable {e : IncidentEngine} {key : IncidentKey} {o : IncidentObservation}
theorem mem_listActiveIncidents :
    o ∈ e.listActiveIncidents ↔ ∃ key, e.openAt key = some o := by
  simp only [listActiveIncidents, mem_map, mem_filter, Prod.exists, openAt,
    Option.bind_eq_some_iff, mem_entries, openObservation]
  refine ⟨fun h => ?_, fun h => ?_⟩
  · obtain ⟨key, record, ⟨hfind, hactive⟩, rfl⟩ := h
    exact ⟨key, record, hfind, by simp [hactive]⟩
  · obtain ⟨key, record, hfind, ho⟩ := h
    by_cases hactive : record.active
    · rw [if_pos hactive, Option.some.injEq] at ho
      exact ⟨key, record, ⟨hfind, hactive⟩, ho⟩
    · simp [hactive] at ho

theorem appendEvidence_frame (policy : IncidentPolicy) (o : IncidentObservation)
    (evidence : IncidentEvidence) :
    (appendEvidence policy o evidence).id = o.id ∧
      (appendEvidence policy o evidence).state = o.state ∧
      (appendEvidence policy o evidence).scope = o.scope ∧
      reading.core (appendEvidence policy o evidence) = reading.core o := by
  rw [appendEvidence]
  split_ifs <;> exact ⟨rfl, rfl, rfl, rfl⟩

theorem openAt_of_find (hfind : e.records.find? key = some record) :
    e.openAt key = record.openObservation := by
  simp [openAt, hfind]

theorem openAt_of_not_find (hfind : e.records.find? key = none) : e.openAt key = none := by
  simp [openAt, hfind]

theorem openAt_of_active (hfind : e.records.find? key = some record)
    (hactive : record.active) :
    e.openAt key = some record.observation :=
  (openAt_of_find hfind).trans (openObservation_of_active hactive)

variable (w : Working) (key : IncidentKey) (evaluation : Evaluation)
  (evidence : IncidentEvidence) (severity : IncidentSeverity)
  (completeness : IncidentEvidenceCompleteness) in
/-- What an evaluation can do to the record of its key: nothing that can be seen, or update,
resolve or open its incident, or find that no id is left. -/
inductive Evaluated : Except Working Working → Prop
  | silent : Evaluated (.ok w)
  | counted (record : IncidentRecord)
    (hsame : record.openObservation = w.engine.openAt key) :
    Evaluated (.ok (w.setRecord key record))
  | forgotten (hnone : w.engine.openAt key = none) :
    Evaluated (.ok (w.eraseRecord key))
  | updated (o : IncidentObservation) (record : IncidentRecord) (hbad : evaluation = .bad)
    (hopen : w.engine.openAt key = some o) (hactive : record.active = true)
    (hrecord : record.observation =
      Working.updateIncident w.engine.policy.toIncidentPolicy o evidence completeness) :
    Evaluated
      (.ok ((w.setRecord key record).emit record.observation))
  | recovered (o : IncidentObservation) (record : IncidentRecord) (hgood : evaluation = .good)
    (hopen : w.engine.openAt key = some o)
    (hrecord : record.observation =
      appendEvidence w.engine.policy.toIncidentPolicy o evidence) :
    Evaluated (.ok (w.resolveRecordLocked key
      record evidence.observedAt evidence.monotonicAt evidence.condition))
  | opened (record : IncidentRecord) (hbad : evaluation = .bad)
    (hnone : w.engine.openAt key = none) (hid : w.engine.nextIncidentId ≠ 0)
    (hactive : record.active = true)
    (hrecord : record.observation = Working.openIncident w.engine.policy.toIncidentPolicy
      w.engine.nextIncidentId key evidence severity completeness) :
    Evaluated
      (.ok ((w.setRecord key record).issue.emit record.observation))
  | exhausted (record : IncidentRecord) (hbad : evaluation = .bad)
    (hid : w.engine.nextIncidentId = 0) :
    Evaluated (.error (w.setRecord key record))

variable {w w' : Working} {netns : NetnsId} {evidence : IncidentEvidence}
    {severity : IncidentSeverity} {completeness : IncidentEvidenceCompleteness}
    {found : IncidentRecord} {result : Except Working Working}

section Evaluated
variable {key : IncidentKey} {evaluation : Evaluation}
theorem Held.openAt {key : IncidentKey} (h : Held w key netns found) :
    w.engine.openAt key = found.openObservation := by
  cases h with
  | found _ hfind => exact openAt_of_find hfind
  | fresh hnone => exact openAt_of_not_find hnone

theorem evaluateLocked_evaluated
    (hresult : w.evaluateLocked key netns evaluation evidence severity completeness = result) :
    Evaluated w key evaluation evidence severity completeness result := by
  -- the open observation under the key, read off the record the evaluation found
  have hkept : ∀ {found record : IncidentRecord}, w.engine.records.find? key = some found →
      found.active → record.active → record.observation = found.observation →
      record.openObservation = w.engine.openAt key := fun hfind hactive hlive hsame =>
    (openObservation_of_active hlive).trans (hsame ▸ (openAt_of_active hfind hactive).symm)
  have hpending : ∀ {found}, Held w key netns found → found.active = false →
      w.engine.openAt key = none := fun hheld hactive =>
    hheld.openAt.trans (openObservation_of_not_active (by simp [hactive]))
  cases evaluateLocked_judged hresult with
  | ignored => exact .silent
  | paused found hfind hactive | recovering found hfind hactive | repeated found hfind hactive =>
    exact .counted _ (hkept hfind hactive hactive rfl)
  | dropped _ found _ hfind hactive => exact .forgotten (hpending (.found found hfind) hactive)
  | recovered found hfind hactive =>
    exact .recovered found.observation _ rfl (openAt_of_active hfind hactive) rfl
  | updated found incident hfind hactive _ hincident =>
    exact .updated found.observation
      ⟨netns, min (found.badStreak + 1) w.engine.policy.activationConsecutive, 0, found.active,
        incident⟩ rfl (openAt_of_active hfind hactive) hactive hincident
  | counted _ hheld hactive =>
    apply Evaluated.counted
    rw [hpending hheld hactive]
    exact openObservation_of_not_active (by simp [hactive])
  | exhausted _ _ _ _ hid => exact .exhausted _ rfl hid
  | opened found incident hheld hactive _ hid hincident =>
    exact .opened ⟨netns, found.badStreak + 1, 0, true, incident⟩ rfl (hpending hheld hactive) hid
      rfl hincident

theorem evaluateLocked_error
    (h : w.evaluateLocked key netns evaluation evidence severity completeness = .error w') :
    ∃ record, record.openObservation = w.engine.openAt key ∧ w' = w.setRecord key record := by
  cases evaluateLocked_judged h with
  | exhausted found hheld hactive =>
    have hpending : ¬found.active := by simp [hactive]
    refine ⟨_, ?_, rfl⟩
    rw [hheld.openAt, openObservation_of_not_active hpending]
    exact openObservation_of_not_active hpending
end Evaluated

structure Emittable (o : IncidentObservation) : Prop where
  state : o.state = .active ∨ o.state = .resolved
  netns : (scopeNetns o.scope).inode ≠ 0

structure Accounted (log : List IncidentObservation) (w : Working) : Prop where
  ledger : Ledger reading w.engine.openAt w.engine.issued (log ++ w.emissions)
  counter : w.engine.nextIncidentId < 2 ^ 64
  entries : ∀ o ∈ log ++ w.emissions, Emittable o

variable {log : List IncidentObservation}

section Moves
variable {key : IncidentKey}
theorem openAt_setRecord (w : Working) (key : IncidentKey) (record : IncidentRecord) :
    (w.setRecord key record).engine.openAt =
      update w.engine.openAt key record.openObservation := by
  funext k
  by_cases hk : k = key
  · subst hk
    simp [openAt, Working.setRecord]
  · simp [openAt, Working.setRecord, hk, Ne.symm hk]

theorem openAt_eraseRecord (w : Working) (key : IncidentKey) :
    (w.eraseRecord key).engine.openAt = update w.engine.openAt key none := by
  funext k
  by_cases hk : k = key
  · subst hk
    simp [openAt, Working.eraseRecord]
  · simp [openAt, Working.eraseRecord, hk]

section
variable (h : Accounted log w)
include h
theorem Accounted.setRecord (hsame : record.openObservation = w.engine.openAt key) :
    Accounted log (w.setRecord key record) := by
  refine ⟨?_, h.counter, h.entries⟩
  rw [openAt_setRecord, hsame, update_eq_self]
  exact h.ledger

theorem Accounted.eraseRecord (hnone : w.engine.openAt key = none) :
    Accounted log (w.eraseRecord key) := by
  refine ⟨?_, h.counter, h.entries⟩
  rw [openAt_eraseRecord, ← hnone, update_eq_self]
  exact h.ledger

section
variable (ho : w.engine.openAt key = some o)
include ho
theorem Accounted.open_emittable :
    o.state = .active ∧ Emittable o := by
  obtain ⟨hopen, hlast⟩ := (h.ledger.current o).mp ⟨key, ho⟩
  have hmem := (mem_filter.mp (mem_of_getLast? hlast)).1
  exact ⟨of_decide_eq_true hopen, h.entries o hmem⟩

theorem Accounted.continueItem (o' : IncidentObservation) (hid : o'.id = o.id)
    (hcore : reading.core o' = reading.core o) (hstate : o'.state = .active ∨ o'.state = .resolved)
    (hopen : w'.engine.openAt = update w.engine.openAt key (if o'.state = .active then some o' else
      none)) (hnext : w'.engine.nextIncidentId = w.engine.nextIncidentId)
    (hemit : w'.emissions = w.emissions ++ [o']) : Accounted log w' := by
  have hissued : w'.engine.issued = w.engine.issued := by rw [issued, issued, hnext]
  have hscope : o'.scope = o.scope := congrArg (fun c => c.2.1) hcore
  refine ⟨?_, hnext ▸ h.counter, ?_⟩
  · have hledger := h.ledger.continueItem ho hid hcore
    rw [hopen, hissued, hemit, ← append_assoc]
    simpa [reading] using hledger
  · rw [hemit, ← append_assoc]
    exact forall_mem_append.mpr ⟨h.entries,
      forall_mem_singleton.mpr ⟨hstate, hscope ▸ (h.open_emittable ho).2.netns⟩⟩

theorem Accounted.resolveRecordLocked (hid : record.observation.id = o.id)
    (hcore : reading.core record.observation = reading.core o) (realtime : RealtimeTime)
    (monotonic : MonotonicTime) (condition : String) :
    Accounted log (w.resolveRecordLocked key record realtime monotonic condition) := by
  refine h.continueItem ho (resolvedCopy record.observation realtime monotonic condition)
    hid hcore (.inr rfl) ?_ rfl rfl
  exact openAt_eraseRecord ..
end

theorem Accounted.of_records (hrecords : w'.engine.records = w.engine.records)
    (hnext : w'.engine.nextIncidentId = w.engine.nextIncidentId)
    (hemit : w'.emissions = w.emissions) : Accounted log w' := by
  have hopen : w'.engine.openAt = w.engine.openAt := by
    funext k
    rw [openAt, openAt, hrecords]
  have hissued : w'.engine.issued = w.engine.issued := by rw [issued, issued, hnext]
  refine ⟨?_, hnext ▸ h.counter, ?_⟩
  · rw [hopen, hissued, hemit]
    exact h.ledger
  · rw [hemit]
    exact h.entries
end

theorem Accounted.resolvable (log : List IncidentObservation) : Resolvable (Accounted log) := by
  refine ⟨fun w key record realtime monotonic condition hfind hactive h => ?_,
    fun w key record hfind hactive h => ?_, fun w sockets h => h.of_records rfl rfl rfl⟩
  · exact h.resolveRecordLocked (openAt_of_active hfind hactive) rfl rfl realtime monotonic condition
  · have hopen := openAt_of_find hfind
    rw [openObservation_of_not_active (by simp [hactive])] at hopen
    exact h.eraseRecord hopen

theorem issued_of_pos (hpos : e.nextIncidentId ≠ 0) (hlt : e.nextIncidentId < 2 ^ 64) :
    e.issued + 1 = e.nextIncidentId := by
  rw [issued]
  omega

theorem issued_succ {n : ℕ} (hlt : n < 2 ^ 64) (hnext : e.nextIncidentId = (n + 1) % 2 ^ 64) :
    e.issued = n := by
  rw [issued]
  omega

theorem openIncident_frame (policy : IncidentPolicy) (id : ℕ) (key : IncidentKey)
    (evidence : IncidentEvidence) (severity : IncidentSeverity)
    (completeness : IncidentEvidenceCompleteness) :
    (Working.openIncident policy id key evidence severity completeness).id = id ∧
      (Working.openIncident policy id key evidence severity completeness).state = .active ∧
      (Working.openIncident policy id key evidence severity completeness).scope = key.scope := by
  obtain ⟨hid, hstate, hscope, -⟩ := appendEvidence_frame policy _ evidence
  exact ⟨hid, hstate, hscope⟩

theorem Accounted.openItem (h : Accounted log w) (hnone : w.engine.openAt key = none)
    (hpos : w.engine.nextIncidentId ≠ 0) (hid : o.id = w.engine.nextIncidentId)
    (hstate : o.state = .active) (hscope : (scopeNetns o.scope).inode ≠ 0)
    (hopen : w'.engine.openAt = update w.engine.openAt key (some o))
    (hnext : w'.engine.nextIncidentId = (w.engine.nextIncidentId + 1) % 2 ^ 64)
    (hemit : w'.emissions = w.emissions ++ [o]) : Accounted log w' := by
  have hbefore := issued_of_pos hpos h.counter
  have hafter := issued_succ h.counter hnext
  refine ⟨?_, hnext ▸ Nat.mod_lt _ (by decide), ?_⟩
  · have hledger := h.ledger.openItem (o := o) hnone (hid.trans hbefore.symm)
      (decide_eq_true hstate)
    rw [hopen, hafter, hemit, ← append_assoc, ← hbefore]
    exact hledger
  · rw [hemit, ← append_assoc]
    exact forall_mem_append.mpr ⟨h.entries, forall_mem_singleton.mpr ⟨.inl hstate, hscope⟩⟩

section Evaluate
theorem Accounted.evaluateLocked (h : Accounted log w) (evaluation : Evaluation)
    (hnetns : (scopeNetns key.scope).inode ≠ 0) :
    Ends (Accounted log) (fun w' => Exhausted w' ∧ Accounted log w')
      (w.evaluateLocked key netns evaluation evidence severity completeness) := by
  generalize hresult : w.evaluateLocked .. = result
  cases evaluateLocked_evaluated hresult with
  | silent => exact h
  | counted _ hsame => exact h.setRecord hsame
  | forgotten hnone => exact h.eraseRecord hnone
  | updated o record _ hopen hactive hrecord =>
    obtain ⟨hid, hstate, -, hcore⟩ :=
      appendEvidence_frame w.engine.policy.toIncidentPolicy o evidence
    have hlive : record.observation.state = .active := by
      rw [hrecord]
      exact hstate.trans (h.open_emittable hopen).1
    refine h.continueItem hopen record.observation (hrecord ▸ hid) (hrecord ▸ hcore)
      (.inl hlive) ?_ rfl rfl
    rw [if_pos hlive, ← openObservation_of_active hactive]
    exact openAt_setRecord ..
  | recovered o _ _ hopen hrecord =>
    obtain ⟨hid, -, -, hcore⟩ := appendEvidence_frame w.engine.policy.toIncidentPolicy o evidence
    exact h.resolveRecordLocked hopen (hrecord ▸ hid) (hrecord ▸ hcore) _ _ _
  | opened record _ hnone hid hactive hrecord =>
    obtain ⟨hnew, hstate, hscope⟩ := openIncident_frame w.engine.policy.toIncidentPolicy
      w.engine.nextIncidentId key evidence severity completeness
    rw [← hrecord] at hnew hstate hscope
    refine h.openItem hnone hid hnew hstate (by rw [hscope]; exact hnetns) ?_ rfl rfl
    rw [← openObservation_of_active hactive]
    exact openAt_setRecord ..
  | exhausted _ _ hid =>
    obtain ⟨record', hsame, hw⟩ := evaluateLocked_error hresult
    exact ⟨hid, hw ▸ h.setRecord hsame⟩
end Evaluate

theorem Accounted.dispatch (h : Accounted log w) {event : NetworkEvent}
    (hresult : w.dispatch event = some result) :
    Ends (Accounted log) (fun w' => Exhausted w' ∧ Accounted log w') result :=
  dispatch_rule (Accounted.resolvable log)
    (fun _ _ _ evaluation _ _ _ _ hnetns h => h.evaluateLocked evaluation hnetns) h hresult
end Moves

theorem Accounted.settle (h : Accounted log w) :
    Accounted (log ++ w.emissions) ⟨w.engine, []⟩ := by
  refine ⟨?_, h.counter, ?_⟩
  · simpa using h.ledger
  · simpa using h.entries

structure Trace where
  engine : IncidentEngine
  log : List IncidentObservation
  threw : Bool

def Trace.step (s : Trace) (event : NetworkEvent) : Trace :=
  if s.threw then s
  else match s.engine.process event with
    | (engine, .done _ emissions) => ⟨engine, s.log ++ emissions, false⟩
    | (engine, .threw) => ⟨engine, s.log, true⟩

def trace (policy : AcceptedPolicy) (events : List NetworkEvent) : Trace :=
  run Trace.step ⟨initial policy, [], false⟩ events

structure Trace.Sound (s : Trace) : Prop where
  accounted : s.threw = false → Accounted s.log ⟨s.engine, []⟩
  exhausted : s.threw = true → s.engine.nextIncidentId = 0

theorem Trace.Sound.step (s : Trace) (event : NetworkEvent) (h : s.Sound) :
    (s.step event).Sound := by
  cases hthrew : s.threw with
  | true =>
    rw [Trace.step, if_pos hthrew]
    exact h
  | false =>
    have hbefore := h.accounted hthrew
    rw [Trace.step, if_neg (by simp [hthrew])]
    rw [process]
    cases hd : Working.dispatch ⟨s.engine, []⟩ event with
    | none =>
      refine ⟨fun _ => ?_, fun h => absurd h (by simp)⟩
      simpa using hbefore
    | some result =>
      have hends := hbefore.dispatch hd
      cases result with
      | ok w =>
        have hw : Accounted s.log w := hends
        exact ⟨fun _ => hw.settle, fun h => absurd h (by simp)⟩
      | error => exact ⟨fun h => absurd h (by simp), fun _ => hends.1⟩

theorem accounted_initial (policy : AcceptedPolicy) : Accounted [] ⟨initial policy, []⟩ := by
  refine ⟨?_, ?_, by simp⟩
  · have hissued : (initial policy).issued = 0 := by norm_num [issued, initial]
    rw [hissued]
    exact Ledger.nil
  · change 1 < 2 ^ 64
    norm_num

theorem trace_sound (policy : AcceptedPolicy) (events : List NetworkEvent) :
    (trace policy events).Sound :=
  run_invariant Trace.Sound.step ⟨fun _ => accounted_initial policy, by simp⟩ events

/-- Over every run of `process` the ids in the order of their activation are 1, 2, 3, ...,
the emissions of each id are active ones followed by at most one resolved one with one type,
scope and opening, and the active incidents are the last emissions that are active. Only the
exhaustion of all 2^64 - 1 ids makes a call throw. -/
theorem incident_lifecycle (policy : AcceptedPolicy) (events : List NetworkEvent) :
    ((trace policy events).threw = false →
      firstTags reading (trace policy events).log =
        List.range' 1 (trace policy events).engine.issued ∧
      (∀ o ∈ (trace policy events).log,
        (o.state = .active ∨ o.state = .resolved) ∧
          Episode reading (entriesOf reading (trace policy events).log o.id)) ∧
      ∀ o, o ∈ (trace policy events).engine.listActiveIncidents ↔
        ∃ id, lastOf reading (trace policy events).log id = some o ∧ o.state = .active) ∧
    ((trace policy events).threw = true → (trace policy events).engine.issued = 2 ^ 64 - 1) := by
  have hsound := trace_sound policy events
  refine ⟨fun hthrew => ?_, fun hthrew => ?_⟩
  · have haccount := hsound.accounted hthrew
    obtain ⟨horder, hepisode, hcurrent⟩ := haccount.ledger.history
    simp only [append_nil] at horder hepisode hcurrent
    refine ⟨horder, fun o ho => ⟨?_, hepisode o ho⟩, fun o => ?_⟩
    · exact (haccount.entries o (by simpa using ho)).state
    · rw [mem_listActiveIncidents, hcurrent]
      simp [reading]
  · rw [issued, hsound.exhausted hthrew]
    norm_num

theorem Emittable.publish_ok (h : Emittable o) {eventId : ℕ} (hid : eventId ≠ 0) :
    ∃ event, publish eventId o = .ok event := by
  have hnetns := h.netns
  have haccept : constructorError (publishHeader eventId o) (.incident o) = none := by
    cases hscope : o.scope with
    | interface =>
      rw [hscope] at hnetns
      exact absurd rfl hnetns
    | socket id | netns id =>
      rw [hscope, scopeNetns] at hnetns
      simp [constructorError, publishHeader, hid, hscope, hnetns, payloadError, scopeMatches,
        scopeNetns, kindFor]
  exact ⟨⟨_, _, haccept⟩, by rw [publish, NetworkEvent.make, dif_pos haccept]⟩
end IncidentEngine
end WeakNet
