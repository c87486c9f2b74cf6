import WeakNet.IncidentBounds
import WeakNet.RootCauseGrounding

/-! A callback fails if `process` throws or if an observation it collected is rejected by the event
constructor. Sessions go on after a failure as the bus does, and count failures and the event ids
taken. -/

namespace WeakNet
open Foundation Foundation.OrderedMap Foundation.Runs List

/-- The loop that publishes what a call collected, each observation under the next event id;
`used` ids are taken before it. The first rejected event ends it. -/
def publishEach {α : Type} (make : ℕ → α → Option (Except String NetworkEvent)) (used : ℕ) :
    List α → ℕ × Bool
  | [] => (used, true)
  | o :: rest =>
    match make ((used + 1) % 2 ^ 64) o with
    | none => publishEach make used rest
    | some (.ok _) => publishEach make (used + 1) rest
    | some (.error _) => (used + 1, false)

section PublishEach
variable {α : Type} {make : ℕ → α → Option (Except String NetworkEvent)}
theorem publishEach_used_le (used : ℕ) (l : List α) : used ≤ (publishEach make used l).1 := by
  induction l generalizing used with
  | nil => exact le_rfl
  | cons _ _ ih =>
    rw [publishEach]
    split
    · exact ih ..
    · exact (Nat.le_succ used).trans (ih (used + 1))
    · exact Nat.le_succ ..

theorem publishEach_ok {l : List α}
    (h : ∀ o ∈ l, ∀ id, id ≠ 0 → ∃ event, make id o = some (.ok event)) (used : ℕ)
    (hused : (publishEach make used l).1 < 2 ^ 64) : (publishEach make used l).2 := by
  induction l generalizing used with
  | nil => rfl
  | cons o _ ih =>
    have hrest := ih fun a ha => h a (mem_cons_of_mem o ha)
    have hfirst : used + 1 < 2 ^ 64 → ∃ event, make ((used + 1) % 2 ^ 64) o = some (.ok event) := by
      intro hlt
      apply h o mem_cons_self
      omega
    rw [publishEach] at hused ⊢
    split at hused
    · exact hrest used hused
    · exact hrest (used + 1) hused
    · rename_i text hmake
      obtain ⟨event, hok⟩ := hfirst hused
      rw [hok] at hmake
      cases hmake
end PublishEach

/-- An engine, how many event ids it has taken, and how many of its callbacks have failed. -/
structure Session (σ : Type) where
  engine : σ
  used : ℕ
  failures : ℕ

theorem Session.published_failures {σ α : Type} {s : Session σ} {l : List α}
    {make : ℕ → α → Option (Except String NetworkEvent)} {out out' : Prop}
    (hmake : ∀ o ∈ l, ∀ id, id ≠ 0 → ∃ event, make id o = some (.ok event))
    (h : s.failures ≠ 0 → out ∨ 2 ^ 64 ≤ s.used) (hout : out → out')
    (hfailed : (if (publishEach make s.used l).2 then s.failures else s.failures + 1) ≠ 0) :
    out' ∨ 2 ^ 64 ≤ (publishEach make s.used l).1 := by
  by_cases hused : (publishEach make s.used l).1 < 2 ^ 64
  · -- everything was published, so that the failure is an earlier one
    rw [if_pos (publishEach_ok hmake s.used hused)] at hfailed
    rcases h hfailed with hnow | hmany
    · exact .inl (hout hnow)
    · exact .inr (hmany.trans (publishEach_used_le s.used l))
  · exact .inr (Nat.le_of_not_lt hused)

namespace IncidentEngine
def callback (s : Session IncidentEngine) (event : NetworkEvent) : Session IncidentEngine :=
  match s.engine.process event with
  | (engine, .threw) => ⟨engine, s.used, s.failures + 1⟩
  | (engine, .done _ emissions) =>
    let published := publishEach (fun id o => some (publish id o)) s.used emissions
    ⟨engine, published.1, if published.2 then s.failures else s.failures + 1⟩

theorem Exhausted.resolvable : Resolvable Exhausted :=
  ⟨fun _ _ _ _ _ _ _ _ h => h, fun _ _ _ _ _ h => h, fun _ _ h => h⟩

theorem Exhausted.evaluateLocked {w : Working} {key : IncidentKey} {netns : NetnsId}
    {evidence : IncidentEvidence} {severity : IncidentSeverity}
    {completeness : IncidentEvidenceCompleteness} (h : Exhausted w) (evaluation : Evaluation) :
    Ends Exhausted Exhausted
      (w.evaluateLocked key netns evaluation evidence severity completeness) := by
  generalize hresult : w.evaluateLocked .. = result
  cases evaluateLocked_judged hresult with
  | opened _ _ _ _ _ hid => exact absurd h hid
  | ignored | paused | dropped | recovering | recovered | repeated | updated | counted | exhausted =>
    exact h

structure Unfailing (log : List IncidentObservation) (s : Session IncidentEngine) : Prop where
  accounted : Accounted log ⟨s.engine, []⟩
  failures : s.failures ≠ 0 → s.engine.nextIncidentId = 0 ∨ 2 ^ 64 ≤ s.used

theorem Unfailing.callback {log : List IncidentObservation} {s : Session IncidentEngine}
    (h : Unfailing log s) (event : NetworkEvent) :
    ∃ log', Unfailing log' (callback s event) := by
  rw [IncidentEngine.callback, process]
  cases hdispatch : Working.dispatch ⟨s.engine, []⟩ event with
  | none => exact ⟨log, h.accounted, h.failures⟩
  | some result =>
    have hends := h.accounted.dispatch hdispatch
    have hexhausted : Exhausted ⟨s.engine, []⟩ → Ends Exhausted Exhausted result := fun hzero =>
      dispatch_rule Exhausted.resolvable
        (fun _ _ _ evaluation _ _ _ _ _ h => h.evaluateLocked evaluation) hzero hdispatch
    cases result with
    | error w => exact ⟨log ++ w.emissions, hends.2.settle, fun _ => .inl hends.1⟩
    | ok w =>
      have hw : Accounted log w := hends
      refine ⟨log ++ w.emissions, hw.settle, ?_⟩
      apply Session.published_failures _ h.failures hexhausted
      intro o ho id hid
      obtain ⟨event, hevent⟩ := (hw.entries o (mem_append_right log ho)).publish_ok hid
      exact ⟨event, congrArg some hevent⟩

theorem unfailing_run (policy : AcceptedPolicy) (events : List NetworkEvent) :
    ∃ log, Unfailing log (run callback ⟨initial policy, 0, 0⟩ events) := by
  apply run_invariant (P := fun s => ∃ log, Unfailing log s)
  · intro s event hs
    obtain ⟨log, hlog⟩ := hs
    exact hlog.callback ..
  · exact ⟨[], accounted_initial policy, absurd rfl⟩
end IncidentEngine

namespace RootCauseEngine

/-- `ticks` is what the clock shows when the event of an id is built. -/
def callback (ticks : ℕ → MonotonicTime) (s : Session RootCauseEngine) (delivery : Delivery) :
    Session RootCauseEngine :=
  match s.engine.process delivery.event delivery.clock with
  | (engine, .threw _) => ⟨engine, s.used, s.failures + 1⟩
  | (engine, .done _ emissions) =>
    let published := publishEach (fun id h => publish id (ticks id) h) s.used emissions
    ⟨engine, published.1, if published.2 then s.failures else s.failures + 1⟩

def Located (scope : IncidentScope) : Prop := (IncidentEngine.scopeNetns scope).inode ≠ 0

theorem located_of_fits {event : NetworkEvent} {o : IncidentObservation}
    (hpayload : event.payload = .incident o) (hfits : o.scope.fits o.type) : Located o.scope := by
  rw [Located, scopeNetns_of_fits hpayload hfits]
  exact event.netns_inode

theorem publish_ok {h : RootCauseHypothesisObservation} (hscope : Located h.scope) {eventId : ℕ}
    (hid : eventId ≠ 0) (now : MonotonicTime) :
    ∃ event, publish eventId now h = some (.ok event) := by
  have hnetns : publishNetns h = IncidentEngine.scopeNetns h.scope := if_neg hscope
  rw [publish, hnetns, if_neg hscope]
  refine ⟨⟨_, _, ?_⟩, congrArg some (dif_pos ?_)⟩
  all_goals
    rw [Located] at hscope
    cases hkind : h.scope with
    | interface =>
      rw [hkind] at hscope
      exact absurd rfl hscope
    | socket | netns =>
      rw [hkind] at hscope
      simp only [IncidentEngine.scopeNetns] at hscope
      simp [constructorError, payloadError, hid, hkind, hscope, scopeMatches,
        IncidentEngine.scopeNetns, kindFor]

structure Settled (engine : RootCauseEngine) : Prop where
  unpackable : ∀ id o, engine.activeIncidents.find? id = some o → o.candidateKey.Unpackable
  incidents : ∀ id o, engine.activeIncidents.find? id = some o → Located o.scope
  active : ∀ k h, engine.active.find? k = some h → Located h.scope

def Delivery.Fits (delivery : Delivery) : Prop :=
  ∀ o, delivery.event.payload = .incident o → delivery.event.header.source = .incidentEngine →
    o.scope.fits o.type

section Settled
variable {engine next : RootCauseEngine} {delivery : Delivery}
theorem Settled.absorb (h : Settled engine) (hfits : delivery.Fits)
    (habsorb : engine.absorb delivery.event = .changed next) : Settled next := by
  have hframe := absorb_frame habsorb
  refine ⟨fun id o ho => ?_, fun id o ho => ?_, fun k hyp hk => ?_⟩
  · rcases hframe.incidents id o ho with hold | ⟨hpayload, hsource, -⟩
    · exact h.unpackable id o hold
    · exact unpackable_of_fits hpayload (hfits o hpayload hsource)
  · rcases hframe.incidents id o ho with hold | ⟨hpayload, hsource, -⟩
    · exact h.incidents id o hold
    · exact located_of_fits hpayload (hfits o hpayload hsource)
  · rw [hframe.active] at hk
    exact h.active k hyp hk

structure Placed (w : Working) : Prop where
  active : ∀ k h, w.engine.active.find? k = some h → Located h.scope
  emissions : ∀ h ∈ w.emissions, Located h.scope

variable {w : Working} {key : CandidateKey} {hyp : RootCauseHypothesisObservation}
theorem Placed.setActive (h : Placed w) (hscope : Located hyp.scope) :
    Placed (w.setActive key hyp) := by
  refine ⟨fun k held hk => ?_, forall_mem_append.mpr ⟨h.emissions, forall_mem_singleton.mpr hscope⟩⟩
  rw [Working.setActive_find?] at hk
  split_ifs at hk
  · exact Option.some.inj hk ▸ hscope
  · exact h.active k held hk

theorem Placed.resolved (h : Placed w) {now : RealtimeTime}
    (hfind : w.engine.active.find? key = some hyp) :
    Placed (w.resolved now key hyp) := by
  refine ⟨fun k held hk => ?_, forall_mem_append.mpr
    ⟨h.emissions, forall_mem_singleton.mpr (h.active key hyp hfind)⟩⟩
  rw [Working.resolved, find?_erase] at hk
  split_ifs at hk
  exact h.active k held hk

theorem Settled.candidate (h : Settled engine) {clock : ClockReadings} {desired : CandidateMap}
    (hbuilt : engine.buildCandidatesLocked clock = .ok desired)
    {candidate : RootCauseHypothesisObservation} (hfind : desired.find? key = some candidate) :
    Located candidate.scope := by
  rw [buildCandidatesLocked_find? hbuilt] at hfind
  obtain ⟨id, o, ho, hscope, -⟩ := candidateAt_justified hfind
  have hkey : candidate.scope = key.scope := congrArg CandidateKey.scope (candidateAt_key hfind)
  rw [hkey, ← hscope]
  exact h.incidents id o ho

theorem Placed.turned {w' : Working} (h : Placed w) {now : RealtimeTime}
    {candidate : RootCauseHypothesisObservation} (hscope : Located candidate.scope)
    (hturn : Working.Turned now w key candidate (.ok w')) :
    Placed w' ∧ (w.engine.nextOccurrence = 0 → w'.engine.nextOccurrence = 0) := by
  cases hturn with
  | kept | full => exact ⟨h, id⟩
  | updated => exact ⟨h.setActive hscope, id⟩
  | opened _ _ hnext =>
    have hset : Placed (w.setActive key (w.opened key candidate)) := h.setActive hscope
    exact ⟨⟨hset.active, hset.emissions⟩, fun hzero => absurd hzero hnext⟩

/-- How the processing of a delivery ends: it returns hypotheses that can be published, or all
occurrence numbers are used. -/
inductive Ending (engine : RootCauseEngine) : RootCauseEngine × ProcessOutcome → Prop
  | done (next : RootCauseEngine) (consumed : Bool)
      (emissions : List RootCauseHypothesisObservation) (hsettled : Settled next)
      (hemissions : ∀ h ∈ emissions, Located h.scope)
      (hzero : engine.nextOccurrence = 0 → next.nextOccurrence = 0) :
      Ending engine (next, .done consumed emissions)
  | exhausted (next : RootCauseEngine) (hsettled : Settled next)
      (hzero : next.nextOccurrence = 0) : Ending engine (next, .threw .occurrenceExhausted)

theorem Settled.of_placed (h : Settled engine) (hw : Placed w)
    (hcaches : SameCaches engine w.engine) : Settled w.engine := by
  refine ⟨fun id o ho => ?_, fun id o ho => ?_, hw.active⟩ <;> rw [← hcaches.activeIncidents] at ho
  · exact h.unpackable id o ho
  · exact h.incidents id o ho

theorem Settled.reconcileLocked (h : Settled engine) (clock : ClockReadings) (now : RealtimeTime) :
    Ending engine (engine.reconcileLocked clock now) := by
  obtain ⟨desired, hbuilt⟩ : ∃ desired, engine.buildCandidatesLocked clock = .ok desired :=
    buildCandidatesLocked_ok_iff.mpr h.unpackable
  have hstart : Placed ⟨engine, []⟩ := ⟨h.active, forall_mem_nil _⟩
  obtain ⟨hok, herror⟩ : (∀ w, Working.reconcileAll desired now ⟨engine, []⟩ = .ok w →
      Placed w ∧ (engine.nextOccurrence = 0 → w.engine.nextOccurrence = 0)) ∧
      ∀ w, Working.reconcileAll desired now ⟨engine, []⟩ = .error w →
        Placed w ∧ w.engine.nextOccurrence = 0 := by
    apply Working.reconcileAll_rule (P := fun w => Placed w ∧
      (engine.nextOccurrence = 0 → w.engine.nextOccurrence = 0)) _ _ ⟨hstart, id⟩
    · intro w key candidate w' hc hw hturn
      obtain ⟨hplaced, hzero⟩ := hw.1.turned (h.candidate hbuilt hc) hturn
      exact ⟨hplaced, fun hfirst => hzero (hw.2 hfirst)⟩
    -- a turn throws only where no occurrence number is left
    · intro w key candidate w' hc hw hturn
      cases hturn with
      | exhausted _ _ hzero => exact ⟨hw.1, hzero⟩
  rw [RootCauseEngine.reconcileLocked]
  simp only [hbuilt]
  cases hall : Working.reconcileAll desired now ⟨engine, []⟩ with
  | error w =>
    obtain ⟨hplaced, hzero⟩ := herror w hall
    exact .exhausted _ (h.of_placed hplaced (Working.reconcileAll_caches.2 w hall)) hzero
  | ok w =>
    obtain ⟨hplaced, hzero⟩ := hok w hall
    have hdone : Placed (w.resolveAll desired now) :=
      Working.resolveAll_rule (fun _ _ _ _ hfind hw => hw.resolved hfind) hplaced
    have hcaches := (Working.reconcileAll_caches.1 w hall).trans
      (Working.resolveAll_caches now desired w)
    refine .done _ true _ (h.of_placed hdone hcaches) hdone.emissions fun hfirst => ?_
    rw [Working.resolveAll_nextOccurrence]
    exact hzero hfirst

theorem Settled.process (h : Settled engine) (hfits : delivery.Fits) :
    Ending engine (engine.process delivery.event delivery.clock) := by
  rw [RootCauseEngine.process]
  cases habsorb : engine.absorb delivery.event with
  | ignored => exact .done engine false [] h (forall_mem_nil _) id
  | unchanged => exact .done engine true [] h (forall_mem_nil _) id
  | changed next =>
    have hzero := (absorb_frame habsorb).nextOccurrence
    have hending := (h.absorb hfits habsorb).reconcileLocked delivery.clock
      delivery.event.header.observedAt
    dsimp only
    generalize next.reconcileLocked .. = result at *
    cases hending with
    | done last consumed emissions hsettled hemissions hlast =>
      exact .done last consumed emissions hsettled hemissions fun hfirst =>
        hlast (hzero.trans hfirst)
    | exhausted last hsettled hlast => exact .exhausted last hsettled hlast
end Settled

structure Unfailing (s : Session RootCauseEngine) : Prop where
  settled : Settled s.engine
  failures : s.failures ≠ 0 → s.engine.nextOccurrence = 0 ∨ 2 ^ 64 ≤ s.used

theorem Unfailing.callback {s : Session RootCauseEngine} (h : Unfailing s)
    (ticks : ℕ → MonotonicTime) {delivery : Delivery} (hfits : delivery.Fits) :
    Unfailing (callback ticks s delivery) := by
  have hending := h.settled.process hfits
  rw [RootCauseEngine.callback]
  generalize s.engine.process .. = result at *
  cases hending with
  | exhausted _ hsettled hzero => exact ⟨hsettled, fun _ => .inl hzero⟩
  | done _ _ _ hsettled hemissions hzero =>
    refine ⟨hsettled, Session.published_failures ?_ h.failures hzero⟩
    exact fun o ho id hid => publish_ok (hemissions o ho) hid (ticks id)

theorem unfailing_initial (policy : AcceptedRootCausePolicy) : Unfailing ⟨initial policy, 0, 0⟩ := by
  refine ⟨⟨fun id o ho => ?_, fun id o ho => ?_, fun k h hk => ?_⟩, absurd rfl⟩
  · cases ho
  · cases ho
  · cases hk

theorem Settled.safe {engine : RootCauseEngine} {delivery : Delivery} (h : Settled engine)
    (hfits : delivery.Fits) :
    (∀ next, engine.absorb delivery.event = .changed next →
      ∃ desired, next.buildCandidatesLocked delivery.clock = .ok desired) ∧
    ∀ hyp ∈ (engine.process delivery.event delivery.clock).2.emissions, Located hyp.scope := by
  refine ⟨fun next habsorb => ?_, ?_⟩
  · exact buildCandidatesLocked_ok_iff.mpr (h.absorb hfits habsorb).unpackable
  · have hending := h.process hfits
    generalize engine.process .. = result at *
    cases hending with
    | done _ _ _ _ hemissions => exact hemissions
    | exhausted => exact forall_mem_nil _
end RootCauseEngine

namespace IncidentEngine
theorem chronicle_fits (policy : AcceptedPolicy) (events : List NetworkEvent) :
    Fitting ⟨(chronicle policy events).engine, []⟩ ∧
      ∀ o ∈ (chronicle policy events).log, o.scope.fits o.type := by
  apply run_invariant (P := fun s : Chronicle =>
    Fitting ⟨s.engine, []⟩ ∧ ∀ o ∈ s.log, o.scope.fits o.type)
  · intro s event hs
    rw [Chronicle.step]
    cases hdispatch : Working.dispatch ⟨s.engine, []⟩ event with
    | none => exact hs
    | some result =>
      have hends := hs.1.logged hs.2 hdispatch
      cases result with
      | ok | error => exact hends
  · exact ⟨fitting_initial policy, forall_mem_nil _⟩
end IncidentEngine

open RootCauseEngine in
/-- Over every run of its callback, the incident engine fails only after all incident ids or all
event ids have been used, and whatever it collects is accepted by the event constructor. Where
the incident events are such incidents, the root-cause engine unpacks every scope, all its
hypotheses are accepted and published, and it fails only after all occurrence numbers or all
event ids have been used. -/
theorem engines_never_fail (incidentPolicy : AcceptedPolicy) (events : List NetworkEvent)
    (policy : AcceptedRootCausePolicy) (deliveries : List Delivery) (ticks : ℕ → MonotonicTime)
    (hpublished : ∀ d ∈ deliveries, ∀ o, d.event.payload = .incident o →
      d.event.header.source = .incidentEngine →
        ∃ incidentPolicy events, o ∈ (IncidentEngine.chronicle incidentPolicy events).log) :
    ((∀ o ∈ (IncidentEngine.chronicle incidentPolicy events).log, ∀ id, id ≠ 0 →
        ∃ event, IncidentEngine.publish id o = .ok event) ∧
      ((run IncidentEngine.callback ⟨.initial incidentPolicy, 0, 0⟩ events).failures ≠ 0 →
        (run IncidentEngine.callback ⟨.initial incidentPolicy, 0, 0⟩ events).engine.issued =
            2 ^ 64 - 1 ∨
          2 ^ 64 ≤ (run IncidentEngine.callback ⟨.initial incidentPolicy, 0, 0⟩ events).used)) ∧
    AllSteps (callback ticks)
      (fun s d =>
        (∀ next, s.engine.absorb d.event = .changed next →
          ∃ desired, next.buildCandidatesLocked d.clock = .ok desired) ∧
        ∀ h ∈ (s.engine.process d.event d.clock).2.emissions, ∀ id, id ≠ 0 → ∀ now,
          ∃ event, publish id now h = some (.ok event))
      ⟨initial policy, 0, 0⟩ deliveries ∧
    ((run (callback ticks) ⟨initial policy, 0, 0⟩ deliveries).failures ≠ 0 →
      (run (callback ticks) ⟨initial policy, 0, 0⟩ deliveries).engine.issued = 2 ^ 64 - 1 ∨
        2 ^ 64 ≤ (run (callback ticks) ⟨initial policy, 0, 0⟩ deliveries).used) := by
  have hfits : AllSteps (callback ticks) (fun _ d => d.Fits) ⟨initial policy, 0, 0⟩ deliveries := by
    apply allSteps_iff.mpr
    intro pre d post hsplit o hpayload hsource
    have hmem : d ∈ deliveries := hsplit ▸ mem_append_right pre mem_cons_self
    obtain ⟨incidentPolicy, events, ho⟩ := hpublished d hmem o hpayload hsource
    exact (IncidentEngine.chronicle_fits incidentPolicy events).2 o ho
  have hstart := unfailing_initial policy
  have hstep : ∀ s d, Unfailing s → Delivery.Fits d → Unfailing (callback ticks s d) :=
    fun s d hs hd => hs.callback ticks hd
  refine ⟨⟨fun o ho id hid => ?_, fun hfailed => ?_⟩, ?_, fun hfailed => ?_⟩
  · have haccounted := (IncidentEngine.chronicle_kept incidentPolicy events).2.accounted
    exact (haccounted.entries o (mem_append_left _ ho)).publish_ok hid
  · obtain ⟨log, hlog⟩ := IncidentEngine.unfailing_run incidentPolicy events
    refine (hlog.failures hfailed).imp_left fun hzero => ?_
    rw [IncidentEngine.issued, hzero]
    norm_num
  · refine AllSteps.imp ?_ hstep hstart hfits
    intro s d hs hd
    obtain ⟨hbuilt, hlocated⟩ := hs.settled.safe hd
    exact ⟨hbuilt, fun h hh id hid now => publish_ok (hlocated h hh) hid now⟩
  · have hrun := run_guarded hstep hstart hfits
    refine (hrun.failures hfailed).imp_left fun hzero => ?_
    rw [issued, hzero]
    norm_num

theorem engines_never_fail_sample :
    (run IncidentEngine.callback ⟨.initial IncidentEngine.standardPolicy, 0, 0⟩
      [IncidentEngine.uplinkSample false, IncidentEngine.uplinkSample false]).failures = 0 ∧
    (run (RootCauseEngine.callback fun _ => 0) ⟨RootCauseEngine.initial .standard, 0, 0⟩
      [RootCauseEngine.sampleDelivery]).failures = 0 := by
  have hsafe := engines_never_fail IncidentEngine.standardPolicy
    [IncidentEngine.uplinkSample false, IncidentEngine.uplinkSample false] .standard
    [RootCauseEngine.sampleDelivery] (fun _ => 0) ?_
  · refine ⟨?_, ?_⟩
    · by_contra hfailed
      exact absurd (hsafe.1.2 hfailed) (by decide +kernel)
    · by_contra hfailed
      exact absurd (hsafe.2.2 hfailed) (by decide +kernel)
  · intro d hd o hpayload _
    rw [mem_singleton.mp hd] at hpayload
    have ho : RootCauseEngine.sampleIncident = o := NetworkEventPayload.incident.inj hpayload
    refine ⟨IncidentEngine.standardPolicy,
      [IncidentEngine.uplinkSample false, IncidentEngine.uplinkSample false], ?_⟩
    rw [← ho]
    decide +kernel
end WeakNet
