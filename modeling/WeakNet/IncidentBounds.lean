import WeakNet.IncidentLifecycle
import WeakNet.Foundation.MapLoops
import WeakNet.Foundation.PinnedWindow

/-! `Limited` bounds the tables and the streaks of every record. `Chronicled` relates the evidence
of an active record to everything ever appended to it, which is the last evidence of each
observation emitted under its id. A call that throws keeps both. -/

namespace WeakNet.IncidentEngine
open List Function
open Foundation Foundation.OrderedMap Foundation.Runs Foundation.Lifecycle Foundation.PinnedWindow

structure Paced (policy : IncidentPolicy) (ids : Prop) (record : IncidentRecord) : Prop where
  good : record.active = true → record.goodStreak < policy.recoveryConsecutive
  bad : record.active = true → record.badStreak ≤ policy.activationConsecutive
  begun : record.active = false → 1 ≤ record.badStreak
  pending : record.active = false → ids → record.badStreak < policy.activationConsecutive

variable {record : IncidentRecord}

section Paced
variable {policy : IncidentPolicy} {ids : Prop}
theorem paced_of_active (hactive : record.active)
    (hgood : record.goodStreak < policy.recoveryConsecutive)
    (hbad : record.badStreak ≤ policy.activationConsecutive) : Paced policy ids record := by
  refine ⟨fun _ => hgood, fun _ => hbad, fun hp => ?_, fun hp => ?_⟩
  all_goals cases hactive.symm.trans hp

theorem paced_of_pending (hactive : record.active = false) (hbegun : 1 ≤ record.badStreak)
    (hpending : ids → record.badStreak < policy.activationConsecutive) :
    Paced policy ids record := by
  refine ⟨fun hp => ?_, fun hp => ?_, fun _ => hbegun, fun _ => hpending⟩
  all_goals cases hactive.symm.trans hp
end Paced

structure Limited (policy : AcceptedPolicy) (w : Working) : Prop where
  configured : w.engine.policy = policy
  records : w.engine.records.size ≤ policy.maxTrackedRecords
  resolved : w.engine.resolved.length ≤ policy.maxRecentResolved
  paced : ∀ key record, w.engine.records.find? key = some record →
    Paced policy.toIncidentPolicy (w.engine.nextIncidentId ≠ 0) record

variable {w : Working} {key : IncidentKey} {netns : NetnsId} {evidence : IncidentEvidence}
    {severity : IncidentSeverity} {completeness : IncidentEvidenceCompleteness}

section Limited
variable {policy : AcceptedPolicy} {found : IncidentRecord}
theorem limited_initial (policy : AcceptedPolicy) : Limited policy ⟨initial policy, []⟩ := by
  refine ⟨rfl, Nat.zero_le _, Nat.zero_le _, fun key record hfind => ?_⟩
  cases hfind

section
variable (h : Limited policy w)
include h
theorem Limited.setRecord (hheld : Held w key netns found)
    (hpaced : Paced policy.toIncidentPolicy (w.engine.nextIncidentId ≠ 0) record) :
    Limited policy (w.setRecord key record) := by
  refine ⟨h.configured, ?_, h.resolved, fun k r hk => ?_⟩
  · apply size_insert_le h.records
    intro hnone
    cases hheld with
    | found _ hfind => cases hnone.symm.trans hfind
    | fresh _ hroom => exact h.configured ▸ hroom
  · rw [Working.setRecord, find?_insert] at hk
    split_ifs at hk with hkk
    · exact Option.some.inj hk ▸ hpaced
    · exact h.paced k r hk

theorem Limited.eraseRecord (key : IncidentKey) :
    Limited policy (w.eraseRecord key) := by
  refine ⟨h.configured, (size_erase_le _ _).trans h.records, h.resolved, fun k r hk => ?_⟩
  rw [Working.eraseRecord, find?_erase] at hk
  split_ifs at hk
  exact h.paced k r hk

theorem Limited.resolveRecordLocked (key : IncidentKey) (record : IncidentRecord)
    (realtime : RealtimeTime) (monotonic : MonotonicTime) (condition : String) :
    Limited policy (w.resolveRecordLocked key record realtime monotonic condition) := by
  apply Limited.eraseRecord
  refine { h with resolved := ?_ }
  change (List.drop _ _).length ≤ _
  rw [length_drop, h.configured]
  omega
end

theorem Limited.resolvable (policy : AcceptedPolicy) : Resolvable (Limited policy) :=
  ⟨fun _ key record realtime monotonic condition _ _ h =>
      h.resolveRecordLocked key record realtime monotonic condition,
    fun _ key _ _ _ h => h.eraseRecord key,
    fun _ _ h => { h with }⟩

theorem Limited.held (h : Limited policy w) (hheld : Held w key netns found)
    (hactive : found.active = false) (hid : w.engine.nextIncidentId ≠ 0) :
    found.badStreak < policy.activationConsecutive := by
  cases hheld with
  | found _ hfind => exact (h.paced key found hfind).pending hactive hid
  | fresh => exact (consecutive_pos policy).1

theorem Limited.evaluateLocked (h : Limited policy w) (evaluation : Evaluation) :
    Ends (Limited policy) (Limited policy)
      (w.evaluateLocked key netns evaluation evidence severity completeness) := by
  generalize hresult : w.evaluateLocked .. = result
  have hrecovery := (consecutive_pos policy).2
  have hheld : ∀ {found}, w.engine.records.find? key = some found → Held w key netns found :=
    fun hfind => .found _ hfind
  have hclamped : ∀ n, min n w.engine.policy.activationConsecutive ≤ policy.activationConsecutive :=
    fun n => h.configured ▸ Nat.min_le_right n _
  cases evaluateLocked_judged hresult with
  | ignored => exact h
  | paused found hfind hactive =>
    have hbad := (h.paced key found hfind).bad hactive
    exact h.setRecord (hheld hfind) (paced_of_active hactive hrecovery hbad)
  | dropped => exact h.eraseRecord key
  | recovering _ hfind hactive hfew =>
    rw [h.configured] at hfew
    exact h.setRecord (hheld hfind) (paced_of_active hactive hfew (Nat.zero_le _))
  | recovered => exact h.resolveRecordLocked ..
  | repeated _ hfind hactive =>
    exact h.setRecord (hheld hfind) (paced_of_active hactive hrecovery (hclamped _))
  | updated found incident hfind hactive =>
    have hset : Limited policy (w.setRecord key ⟨netns, min (found.badStreak + 1)
        w.engine.policy.activationConsecutive, 0, found.active, incident⟩) :=
      h.setRecord (hheld hfind) (paced_of_active hactive hrecovery (hclamped _))
    exact { hset with }
  | counted _ hheld hactive hfew =>
    rw [h.configured] at hfew
    exact h.setRecord hheld (paced_of_pending hactive (Nat.le_add_left 1 _) fun _ => hfew)
  | exhausted _ hheld hactive _ hid =>
    exact h.setRecord hheld
      (paced_of_pending hactive (Nat.le_add_left 1 _) fun hids => absurd hid hids)
  | opened found incident hheld hactive _ hid =>
    have hset : Limited policy (w.setRecord key ⟨netns, found.badStreak + 1, 0, true, incident⟩) :=
      h.setRecord hheld (paced_of_active rfl hrecovery (h.held hheld hactive hid))
    -- this id may be the last one, so the pending streaks are bounded by what held before it
    refine { hset with paced := fun k r hk => ?_ }
    have hpaced := hset.paced k r hk
    exact { hpaced with pending := fun hp _ => hpaced.pending hp hid }
end Limited

def appended (log : List IncidentObservation) (id : ℕ) : List IncidentEvidence :=
  (entriesOf reading log id).filterMap fun o => o.evidence.getLast?

/-- An active observation holds the window over all evidence appended to it, each piece differing
from the one before, and was first emitted with its opening evidence alone. -/
structure Documented (policy : IncidentPolicy) (log : List IncidentObservation)
    (o : IncidentObservation) : Prop where
  held : o.evidence = (appended log o.id).foldl (push policy.maxEvidencePerIncident) []
  chain : (appended log o.id).IsChain fun a b => evidenceEquivalent a b = false
  opening : ∃ first opening, (entriesOf reading log o.id).head? = some first ∧
    first.evidence = [opening]

variable {log : List IncidentObservation} {o o' : IncidentObservation}

section Documented
variable {policy : IncidentPolicy}

section
variable (log : List IncidentObservation)
theorem entriesOf_append_same (h : o'.id = o.id) :
    entriesOf reading (log ++ [o']) o.id = entriesOf reading log o.id ++ [o'] := by
  have hsingle : (if reading.tag o' = o.id then [o'] else []) = [o'] := if_pos h
  rw [entriesOf_append_single, hsingle]

theorem entriesOf_append_other (h : o'.id ≠ o.id) :
    entriesOf reading (log ++ [o']) o.id = entriesOf reading log o.id := by
  have hnone : (if reading.tag o' = o.id then [o'] else []) = [] := if_neg h
  rw [entriesOf_append_single, hnone, append_nil]

theorem appended_append_same (h : o'.id = o.id) (hlast : o'.evidence.getLast? = some evidence) :
    appended (log ++ [o']) o.id = appended log o.id ++ [evidence] := by
  have hsingle : [o'].filterMap (fun o => o.evidence.getLast?) = [evidence] :=
    filterMap_cons_some hlast
  rw [appended, entriesOf_append_same log h, filterMap_append, hsingle, appended]
end

theorem Documented.other (h : Documented policy log o) (hid : o'.id ≠ o.id) :
    Documented policy (log ++ [o']) o := by
  have hentries := entriesOf_append_other log hid
  have happended : appended (log ++ [o']) o.id = appended log o.id := by
    rw [appended, hentries, appended]
  refine ⟨?_, ?_, ?_⟩
  · rw [happended]
    exact h.held
  · rw [happended]
    exact h.chain
  · rw [hentries]
    exact h.opening

theorem appendEvidence_evidence (hfresh : repeatsLast o evidence = false) :
    (appendEvidence policy o evidence).evidence =
      push policy.maxEvidencePerIncident o.evidence evidence := by
  rw [appendEvidence, if_neg (by simp [hfresh]), push]
  split_ifs <;> rfl

theorem Documented.continued (h : Documented policy log o)
    (hpos : 0 < policy.maxEvidencePerIncident) (hfresh : repeatsLast o evidence = false)
    (hid : o'.id = o.id)
    (hevidence : o'.evidence = push policy.maxEvidencePerIncident o.evidence evidence) :
    Documented policy (log ++ [o']) o' := by
  have hlength : o.evidence.length ≤ policy.maxEvidencePerIncident := by
    rw [h.held]
    exact length_foldl_push_le hpos _
  have hlast : o'.evidence.getLast? = some evidence := by
    rw [hevidence]
    exact getLast?_push hlength
  have happended := appended_append_same log hid hlast
  refine ⟨?_, ?_, ?_⟩
  · rw [hid, happended, foldl_append, ← h.held, hevidence]
    rfl
  · rw [hid, happended, isChain_append]
    refine ⟨h.chain, List.IsChain.singleton _, fun last hmem new hnew => ?_⟩
    obtain rfl : evidence = new := by simpa using hnew
    -- the last appended piece is the last one held, and the new one does not repeat it
    have hheld : o.evidence.getLast? = some last := by
      rw [h.held, getLast?_foldl_push hpos]
      exact hmem
    rw [repeatsLast, hheld] at hfresh
    exact hfresh
  · obtain ⟨first, opening, hfirst, hopening⟩ := h.opening
    refine ⟨first, opening, ?_, hopening⟩
    rw [hid, entriesOf_append_same log hid, List.head?_append, hfirst]
    rfl

theorem documented_open (hpos : 0 < policy.maxEvidencePerIncident)
    (hnew : entriesOf reading log o.id = []) (hevidence : o.evidence = [evidence]) :
    Documented policy (log ++ [o]) o := by
  have hentries : entriesOf reading (log ++ [o]) o.id = [o] := by
    rw [entriesOf_append_same log rfl, hnew]
    rfl
  have happended : appended (log ++ [o]) o.id = [evidence] := by
    rw [appended, hentries, filterMap_cons_some (b := evidence) (by rw [hevidence]; rfl)]
    rfl
  refine ⟨?_, ?_, o, evidence, by rw [hentries]; rfl, hevidence⟩
  · have hfirst : push policy.maxEvidencePerIncident [] evidence = [evidence] := push_of_lt hpos
    rw [happended, hevidence]
    exact hfirst.symm
  · rw [happended]
    exact List.IsChain.singleton _

theorem Documented.head?_appended (h : Documented policy log o) :
    ∃ first opening, (entriesOf reading log o.id).head? = some first ∧
      first.evidence = [opening] ∧ (appended log o.id).head? = some opening := by
  obtain ⟨first, opening, hfirst, hopening⟩ := h.opening
  refine ⟨first, opening, hfirst, hopening, ?_⟩
  obtain ⟨_, hrest⟩ := List.head?_eq_some_iff.mp hfirst
  rw [appended, hrest, filterMap_cons_some (b := opening) (by rw [hopening]; rfl)]
  rfl
end Documented

structure Chronicled (policy : AcceptedPolicy) (log : List IncidentObservation) (w : Working) :
    Prop where
  configured : w.engine.policy = policy
  accounted : Accounted log w
  documented : ∀ key o, w.engine.openAt key = some o →
    Documented policy.toIncidentPolicy (log ++ w.emissions) o

section Chronicled
variable {policy : AcceptedPolicy} {w' : Working}
theorem maxEvidence_pos (policy : AcceptedPolicy) : 0 < policy.maxEvidencePerIncident := by
  have h := policy.accepted
  simp only [IncidentPolicy.rejected, Bool.or_eq_false_iff, beq_eq_false_iff_ne, ne_eq] at h
  omega

section
variable (h : Chronicled policy log w)
include h
theorem Chronicled.silent (hopen : w'.engine.openAt = w.engine.openAt)
    (hemit : w'.emissions = w.emissions) (key : IncidentKey) (o : IncidentObservation)
    (ho : w'.engine.openAt key = some o) :
    Documented policy.toIncidentPolicy (log ++ w'.emissions) o := by
  rw [hopen] at ho
  rw [hemit]
  exact h.documented key o ho

theorem Chronicled.emitted {slot : Option IncidentObservation}
    (hopen : w'.engine.openAt = update w.engine.openAt key slot)
    (hemit : w'.emissions = w.emissions ++ [o'])
    (hother : ∀ k o, k ≠ key → w.engine.openAt k = some o → o'.id ≠ o.id)
    (hslot : ∀ o, slot = some o → Documented policy.toIncidentPolicy (log ++ w.emissions ++ [o']) o)
    (k : IncidentKey) (o : IncidentObservation) (ho : w'.engine.openAt k = some o) :
    Documented policy.toIncidentPolicy (log ++ w'.emissions) o := by
  rw [hemit, ← append_assoc]
  rw [hopen] at ho
  by_cases hk : k = key
  · subst hk
    rw [update_self] at ho
    exact hslot o ho
  · rw [update_of_ne hk] at ho
    exact (h.documented k o ho).other (hother k o hk ho)

theorem Chronicled.id_ne (hopen : w.engine.openAt key = some o) (k : IncidentKey)
    (a : IncidentObservation) (hk : k ≠ key) (ha : w.engine.openAt k = some a) : o.id ≠ a.id :=
  fun hid => hk (h.accounted.ledger.distinct k key a o ha hopen hid.symm)

theorem Chronicled.fresh (hid : w.engine.nextIncidentId ≠ 0) :
    w.engine.nextIncidentId ∉ (log ++ w.emissions).map IncidentObservation.id := by
  have htags := h.accounted.ledger.tag_mem (i := w.engine.nextIncidentId)
  have hissued := issued_of_pos hid h.accounted.counter
  change _ ∉ (log ++ w.emissions).map reading.tag
  rw [htags]
  omega

theorem Chronicled.resolved (hopen : w.engine.openAt key = some o)
    (hid : record.observation.id = o.id) (realtime : RealtimeTime) (monotonic : MonotonicTime)
    (condition : String) (k : IncidentKey) (a : IncidentObservation)
    (ha : (w.resolveRecordLocked key record realtime monotonic condition).engine.openAt k =
      some a) :
    Documented policy.toIncidentPolicy
      (log ++ (w.resolveRecordLocked key record realtime monotonic condition).emissions) a := by
  have hclosed : (w.resolveRecordLocked key record realtime monotonic condition).engine.openAt =
      update w.engine.openAt key none := openAt_eraseRecord _ key
  refine h.emitted hclosed rfl (fun k b hk hb => ?_) (fun b hb => by cases hb) k a ha
  exact fun hsame => h.id_ne hopen k b hk hb (hid.symm.trans hsame)
end

theorem Chronicled.resolvable (policy : AcceptedPolicy) (log : List IncidentObservation) :
    Resolvable (Chronicled policy log) := by
  have haccounted := Accounted.resolvable log
  refine ⟨fun w key record realtime monotonic condition hfind hactive h => ?_,
    fun w key record hfind hactive h => ?_, fun w sockets h => ?_⟩
  · exact ⟨h.configured, haccounted.resolve w key record _ _ _ hfind hactive h.accounted,
      h.resolved (openAt_of_active hfind hactive) rfl realtime monotonic condition⟩
  · have hopen := openAt_of_find hfind
    rw [IncidentRecord.openObservation_of_not_active (by simp [hactive])] at hopen
    refine ⟨h.configured, haccounted.forget w key record hfind hactive h.accounted, h.silent ?_ rfl⟩
    rw [openAt_eraseRecord, ← hopen, update_eq_self]
  · exact ⟨h.configured, haccounted.sockets w sockets h.accounted, h.silent rfl rfl⟩

theorem openIncident_evidence (id : ℕ) (key : IncidentKey) (evidence : IncidentEvidence)
    (severity : IncidentSeverity) (completeness : IncidentEvidenceCompleteness) :
    (Working.openIncident policy.toIncidentPolicy id key evidence severity
      completeness).evidence = [evidence] := by
  have hfirst : push policy.maxEvidencePerIncident [] evidence = [evidence] :=
    push_of_lt (maxEvidence_pos policy)
  exact (appendEvidence_evidence rfl).trans hfirst

theorem Chronicled.evaluateLocked (h : Chronicled policy log w) (evaluation : Evaluation)
    (hnetns : (scopeNetns key.scope).inode ≠ 0) :
    Ends (Chronicled policy log) (Chronicled policy log)
      (w.evaluateLocked key netns evaluation evidence severity completeness) := by
  have haccounted : Ends (Accounted log) (fun w' => Exhausted w' ∧ Accounted log w')
    (w.evaluateLocked key netns evaluation evidence severity completeness) :=
    h.accounted.evaluateLocked evaluation hnetns
  generalize hresult : w.evaluateLocked .. = result
    at haccounted ⊢
  have hpos := maxEvidence_pos policy
  -- a record rewritten without a change of its open observation
  have hsame : ∀ {found record : IncidentRecord}, Held w key netns found →
      record.openObservation = found.openObservation →
      (w.setRecord key record).engine.openAt = w.engine.openAt := fun hheld hrecord => by
    rw [openAt_setRecord, hrecord, ← hheld.openAt, update_eq_self]
  cases evaluateLocked_judged hresult with
  | ignored => exact h
  | paused found hfind | recovering found hfind | repeated found hfind =>
    exact ⟨h.configured, haccounted, h.silent (hsame (.found found hfind) rfl) rfl⟩
  | dropped _ found _ hfind hactive =>
    exact (Chronicled.resolvable policy log).forget w key found hfind hactive h
  | recovered found hfind hactive =>
    refine ⟨h.configured, haccounted, h.resolved (openAt_of_active hfind hactive) ?_ _ _ _⟩
    exact (appendEvidence_frame _ found.observation evidence).1
  | updated found incident hfind hactive hfresh hincident =>
    have hid : incident.id = found.observation.id := by
      rw [hincident]
      exact (appendEvidence_frame _ found.observation evidence).1
    have hevidence : incident.evidence =
        push policy.maxEvidencePerIncident found.observation.evidence evidence := by
      rw [hincident, h.configured]
      exact appendEvidence_evidence hfresh
    have hslot : (w.setRecord key ⟨netns, min (found.badStreak + 1)
        w.engine.policy.activationConsecutive, 0, found.active, incident⟩).engine.openAt =
        update w.engine.openAt key (some incident) := by
      rw [openAt_setRecord]
      exact congrArg _ (IncidentRecord.openObservation_of_active hactive)
    refine ⟨h.configured, haccounted, h.emitted hslot rfl (fun k a hk ha => ?_) fun a ha => ?_⟩
    · rw [hid]
      exact h.id_ne (openAt_of_active hfind hactive) k a hk ha
    · cases ha
      exact (h.documented key _ (openAt_of_active hfind hactive)).continued hpos hfresh hid hevidence
  | counted _ hheld =>
    exact ⟨h.configured, haccounted, h.silent (hsame hheld rfl) rfl⟩
  | exhausted _ hheld =>
    exact ⟨h.configured, haccounted.2, h.silent (hsame hheld rfl) rfl⟩
  | opened found incident _ _ _ hid hincident =>
    have hfresh := h.fresh hid
    have hnumber : incident.id = w.engine.nextIncidentId := by
      rw [hincident]
      exact (openIncident_frame _ _ key evidence severity completeness).1
    have hevidence : incident.evidence = [evidence] := by
      rw [hincident, h.configured]
      exact openIncident_evidence ..
    have hslot : (w.setRecord key ⟨netns, found.badStreak + 1, 0, true, incident⟩).engine.openAt =
        update w.engine.openAt key (some incident) := openAt_setRecord w key _
    refine ⟨h.configured, haccounted, h.emitted hslot rfl (fun k a hk ha hsame => ?_)
      fun a ha => ?_⟩
    · have hlogged := h.accounted.ledger.open_logged ha
      rw [← hnumber, hsame] at hfresh
      exact hfresh hlogged
    · cases ha
      refine documented_open hpos (filter_eq_nil_iff.mpr fun a ha htag => ?_) hevidence
      rw [← hnumber, ← of_decide_eq_true htag] at hfresh
      exact hfresh (mem_map.mpr ⟨a, ha, rfl⟩)
end Chronicled

/-- A run of the engine that goes on after a call has thrown, with everything collected for
publication; what such a call collected is never published. -/
structure Chronicle where
  engine : IncidentEngine
  log : List IncidentObservation

def Chronicle.step (s : Chronicle) (event : NetworkEvent) : Chronicle :=
  match Working.dispatch ⟨s.engine, []⟩ event with
  | none => s
  | some (.ok w) => ⟨w.engine, s.log ++ w.emissions⟩
  | some (.error w) => ⟨w.engine, s.log ++ w.emissions⟩

def chronicle (policy : AcceptedPolicy) (events : List NetworkEvent) : Chronicle :=
  run Chronicle.step ⟨initial policy, []⟩ events

theorem Chronicle.step_engine (s : Chronicle) (event : NetworkEvent) :
    (s.step event).engine = (s.engine.process event).1 := by
  rw [Chronicle.step, process]
  cases Working.dispatch ⟨s.engine, []⟩ event with
  | none => rfl
  | some result =>
    cases result with
    | ok | error => rfl

theorem chronicle_engine (policy : AcceptedPolicy) (events : List NetworkEvent) :
    (chronicle policy events).engine =
      run (fun e event => (e.process event).1) (initial policy) events :=
  (foldl_hom Chronicle.engine fun s event => (s.step_engine event).symm).symm

theorem Chronicled.settle {policy : AcceptedPolicy} (h : Chronicled policy log w) :
    Chronicled policy (log ++ w.emissions) ⟨w.engine, []⟩ := by
  refine ⟨h.configured, h.accounted.settle, fun key o ho => ?_⟩
  simpa using h.documented key o ho

theorem chronicle_kept (policy : AcceptedPolicy) (events : List NetworkEvent) :
    Limited policy ⟨(chronicle policy events).engine, []⟩ ∧
      Chronicled policy (chronicle policy events).log ⟨(chronicle policy events).engine, []⟩ := by
  apply run_invariant (P := fun s : Chronicle =>
    Limited policy ⟨s.engine, []⟩ ∧ Chronicled policy s.log ⟨s.engine, []⟩)
  · intro s event hs
    rw [Chronicle.step]
    cases hdispatch : Working.dispatch ⟨s.engine, []⟩ event with
    | none => exact hs
    | some result =>
      have hlimited : Ends (Limited policy) (Limited policy) result :=
        dispatch_rule (Limited.resolvable policy)
          (fun _ _ _ evaluation _ _ _ _ _ h => h.evaluateLocked evaluation) hs.1 hdispatch
      have hchronicled : Ends (Chronicled policy s.log) (Chronicled policy s.log) result :=
        dispatch_rule (Chronicled.resolvable policy s.log)
          (fun _ _ _ evaluation _ _ _ _ hnetns h => h.evaluateLocked evaluation hnetns) hs.2
          hdispatch
      cases result with
      | ok | error =>
        exact ⟨{ hlimited with }, Chronicled.settle hchronicled⟩
  · refine ⟨limited_initial policy, rfl, accounted_initial policy, fun key o ho => ?_⟩
    cases ho

/-- After every event sequence, calls that throw included: the tables are within their bounds;
an active record holds the window over the evidence ever appended under its id, no piece of
which repeats its predecessor, with the opening evidence first if two fit; its streaks are
within the policy; a pending record has a bad streak, which is short of the activation as long
as an incident id is left. -/
theorem policy_bounds (policy : AcceptedPolicy) (events : List NetworkEvent) :
    (chronicle policy events).engine =
      run (fun e event => (e.process event).1) (initial policy) events ∧
    (chronicle policy events).engine.records.size ≤ policy.maxTrackedRecords ∧
    (chronicle policy events).engine.resolved.length ≤ policy.maxRecentResolved ∧
    ∀ key record, (chronicle policy events).engine.records.find? key = some record →
      (record.active = true →
        (1 ≤ record.observation.evidence.length ∧
          record.observation.evidence.length ≤ policy.maxEvidencePerIncident) ∧
        (record.observation.evidence =
            (appended (chronicle policy events).log record.observation.id).foldl
              (push policy.maxEvidencePerIncident) [] ∧
          (appended (chronicle policy events).log record.observation.id).IsChain
            fun a b => evidenceEquivalent a b = false) ∧
        (∃ first opening,
          (entriesOf reading (chronicle policy events).log record.observation.id).head? =
            some first ∧ first.evidence = [opening] ∧
          (2 ≤ policy.maxEvidencePerIncident →
            record.observation.evidence.head? = some opening)) ∧
        record.goodStreak < policy.recoveryConsecutive ∧
        record.badStreak ≤ policy.activationConsecutive) ∧
      (record.active = false → 1 ≤ record.badStreak ∧
        ((chronicle policy events).engine.nextIncidentId ≠ 0 →
          record.badStreak < policy.activationConsecutive)) := by
  obtain ⟨hlimited, hchronicled⟩ := chronicle_kept policy events
  refine ⟨chronicle_engine policy events, hlimited.records, hlimited.resolved,
    fun key record hfind => ?_⟩
  have hpaced := hlimited.paced key record hfind
  refine ⟨fun hactive => ?_, fun hactive => ⟨hpaced.begun hactive, hpaced.pending hactive⟩⟩
  have hdocumented := hchronicled.documented key _ (openAt_of_active hfind hactive)
  rw [append_nil] at hdocumented
  obtain ⟨first, opening, hfirst, hevidence, hhead⟩ := hdocumented.head?_appended
  have hpos := maxEvidence_pos policy
  have hlast := getLast?_foldl_push hpos
    (appended (chronicle policy events).log record.observation.id)
  rw [← hdocumented.held] at hlast
  refine ⟨⟨?_, ?_⟩, ⟨hdocumented.held, hdocumented.chain⟩, ⟨first, opening, hfirst, hevidence,
    fun htwo => ?_⟩, hpaced.good hactive, hpaced.bad hactive⟩
  · apply length_pos_of_ne_nil
    intro hempty
    rw [hempty] at hlast
    have hnone := List.getLast?_eq_none_iff.mp hlast.symm
    rw [hnone] at hhead
    cases hhead
  · rw [hdocumented.held]
    exact length_foldl_push_le hpos _
  · rw [hdocumented.held, head?_foldl_push htwo]
    exact hhead

def standardPolicy : AcceptedPolicy := ⟨.standard, IncidentPolicy.standard_accepted⟩

def uplinkSample (selected : Bool) : NetworkEvent where
  header :=
    { schemaVersion := networkEventSchemaVersion
      eventId := 1
      sequence := 0
      kind := .uplinkObservation
      source := .netlinkCollector
      observedAt := 0
      monotonicAt := 0
      netns := ⟨4, 1⟩
      interface := none
      socket := none
      validity := .valid
      status := none }
  payload := .uplink ⟨[], 0, selected, ""⟩
  accepted := rfl

def outage : List NetworkEvent :=
  [uplinkSample false, uplinkSample false, uplinkSample true, uplinkSample true]

def uplinkKey : IncidentKey := ⟨.uplinkUnavailable, .netns ⟨4, 1⟩⟩

def tracked (record : IncidentRecord) : OrderedMap IncidentKey IncidentRecord :=
  OrderedMap.empty.insert uplinkKey record

def processed (e : IncidentEngine) (event : NetworkEvent) : IncidentEngine := (e.process event).1

structure Idle (n : ℕ) (e : IncidentEngine) : Prop where
  configured : e.policy = standardPolicy
  records : e.records = .empty
  next : e.nextIncidentId = n

section Outage
variable (sockets : OrderedMap SocketId Bool) (resolved : List IncidentObservation) (n : ℕ)
theorem processed_first : processed ⟨standardPolicy, .empty, sockets, resolved, n⟩
    (uplinkSample false) =
      ⟨standardPolicy, tracked ⟨⟨4, 1⟩, 1, 0, false, .blank⟩, sockets, resolved, n⟩ := rfl

theorem processed_second (hn : n ≠ 0) : ∃ o, processed
    ⟨standardPolicy, tracked ⟨⟨4, 1⟩, 1, 0, false, .blank⟩, sockets, resolved, n⟩
    (uplinkSample false) = ⟨standardPolicy, tracked ⟨⟨4, 1⟩, 2, 0, true, o⟩, sockets, resolved,
      (n + 1) % 2 ^ 64⟩ := by
  cases n with
  | zero => exact absurd rfl hn
  | succ => exact ⟨_, rfl⟩

theorem processed_recovering (o : IncidentObservation) : processed
    ⟨standardPolicy, tracked ⟨⟨4, 1⟩, 2, 0, true, o⟩, sockets, resolved, n⟩ (uplinkSample true) =
      ⟨standardPolicy, tracked ⟨⟨4, 1⟩, 0, 1, true, o⟩, sockets, resolved, n⟩ := rfl

theorem processed_recovered (o : IncidentObservation) : ∃ kept, processed
    ⟨standardPolicy, tracked ⟨⟨4, 1⟩, 0, 1, true, o⟩, sockets, resolved, n⟩ (uplinkSample true) =
      ⟨standardPolicy, .empty, sockets, kept, n⟩ := ⟨_, rfl⟩
end Outage

variable {e : IncidentEngine}
theorem Idle.outage {n : ℕ} (h : Idle n e) (hn : n ≠ 0) :
    Idle ((n + 1) % 2 ^ 64) (run processed e outage) := by
  obtain ⟨_, _, sockets, resolved, next⟩ := e
  obtain ⟨rfl, rfl, rfl⟩ := h
  obtain ⟨o, hopened⟩ := processed_second sockets resolved next hn
  obtain ⟨_, hclosed⟩ := processed_recovered sockets resolved ((next + 1) % 2 ^ 64) o
  rw [IncidentEngine.outage, run_cons, run_cons, run_cons, run_cons, run_nil, processed_first,
    hopened, processed_recovering, hclosed]
  exact ⟨rfl, rfl, rfl⟩

theorem idle_outages (k : ℕ) (hk : k < 2 ^ 64) :
    Idle ((k + 1) % 2 ^ 64)
      (run processed (initial standardPolicy) (List.replicate k outage).flatten) := by
  induction k with
  | zero => exact ⟨rfl, rfl, rfl⟩
  | succ k ih =>
    have hidle := (ih (by omega)).outage (by omega)
    have hnumber : ((k + 1) % 2 ^ 64 + 1) % 2 ^ 64 = (k + 1 + 1) % 2 ^ 64 := by omega
    rw [replicate_succ', flatten_append, run_append, flatten_singleton, ← hnumber]
    exact hidle

theorem Idle.exhausted (h : Idle 0 e) :
    (run processed e [uplinkSample false, uplinkSample false]).records =
      tracked ⟨⟨4, 1⟩, 2, 0, false, .blank⟩ := by
  obtain ⟨_, records, _, _, _⟩ := e
  obtain ⟨rfl, rfl, rfl⟩ := h
  rfl

/-- A run after which a pending record has a streak that reaches the activation threshold. -/
theorem exhausted_streak :
    ∃ events key record,
      (run (fun e event => (e.process event).1) (initial standardPolicy) events).records.find?
        key = some record ∧ record.active = false ∧
      ¬(1 ≤ record.badStreak ∧ record.badStreak < standardPolicy.activationConsecutive) := by
  have hidle := idle_outages (2 ^ 64 - 1) (by norm_num)
  have hzero : (2 ^ 64 - 1 + 1) % 2 ^ 64 = 0 := by norm_num
  rw [hzero] at hidle
  generalize (List.replicate (2 ^ 64 - 1) outage).flatten = outages at hidle
  refine ⟨outages ++ [uplinkSample false, uplinkSample false], uplinkKey,
    ⟨⟨4, 1⟩, 2, 0, false, .blank⟩, ?_, rfl, by decide⟩
  change (run processed _ _).records.find? uplinkKey = _
  rw [run_append, hidle.exhausted]
  rfl
end WeakNet.IncidentEngine
