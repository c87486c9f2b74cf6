import WeakNet.RootCauseRuns
import WeakNet.IncidentScopes

/-! A candidate for a scope is made from the incidents of that scope and from what the caches hold
about it, so two engines that agree on a socket diagnose it alike, and a hypothesis is only held
while an incident of its scope justifies it. -/

namespace WeakNet
open Foundation Foundation.OrderedMap Foundation.Runs Option RootCauseEngine Working IncidentEngine

def IncidentType.justifies : IncidentType → RootCauseType → Bool
  | .uplinkUnavailable, .uplinkAvailabilityProblem => true
  | .routeUnavailable, .localRoutingProblem => true
  | .socketRouteConflict, .localRoutingProblem => true
  | .highTcpRtt, .networkPathDegradation | .highTcpRtt, .remoteOrUpstreamDegradation
  | .highTcpRtt, .localLinkSuspected | .highTcpRtt, .insufficientEvidence => true
  | .elevatedTcpRetransmission, .networkPathDegradation
  | .elevatedTcpRetransmission, .remoteOrUpstreamDegradation
  | .elevatedTcpRetransmission, .localLinkSuspected
  | .elevatedTcpRetransmission, .insufficientEvidence => true
  | _, _ => false

namespace RootCauseEngine
variable {clock : ClockReadings}

section Isolation
variable {a b : RootCauseEngine} {clock' : ClockReadings} {s : SocketId}

/-- Two engines that know the same about a socket. -/
structure AgreeOn (s : SocketId) (a b : RootCauseEngine) : Prop where
  policy : a.policy = b.policy
  incidents : ∀ id o, o.scope = .socket s →
    (a.activeIncidents.find? id = some o ↔ b.activeIncidents.find? id = some o)
  route : a.routeEvents.find? s = b.routeEvents.find? s
  uplink : a.uplinkEvents.find? s.netns = b.uplinkEvents.find? s.netns
  probes : a.probeEvents.find? s.netns = b.probeEvents.find? s.netns
  wifi : ∀ selected, a.currentInterface s.netns
      ((a.routeEvents.find? s).map Observed.observation) = some selected →
    a.wifiEvents.find? ⟨s.netns, selected.ifindex⟩ = b.wifiEvents.find? ⟨s.netns, selected.ifindex⟩

section
variable (h : AgreeOn s a b)
include h
theorem AgreeOn.incidentsAt (type : RootCauseType) :
    a.incidentsAt ⟨type, .socket s⟩ = b.incidentsAt ⟨type, .socket s⟩ := by
  have hsame : a.activeIncidents.filter (fun e => e.2.scope = .socket s) =
      b.activeIncidents.filter (fun e => e.2.scope = .socket s) := by
    apply ext_find?
    intro id
    apply Option.ext
    intro o
    rw [find?_filter, find?_filter, decide_eq_true_eq]
    exact and_congr_left (h.incidents id o)
  have honly : ∀ e : RootCauseEngine, e.incidentsAt ⟨type, .socket s⟩ =
      ((e.activeIncidents.filter (fun e => e.2.scope = .socket s)).entries.map Prod.snd).filter
        (fun o => o.candidateKey = ⟨type, .socket s⟩) := by
    intro e
    rw [RootCauseEngine.incidentsAt, OrderedMap.filter, List.filter_map, List.filter_map,
      List.filter_filter]
    congr 1
    apply List.filter_congr
    intro x _
    by_cases hkey : x.2.candidateKey = ⟨type, .socket s⟩
    · have hscope : x.2.scope = .socket s := (CandidateKey.mk.inj hkey).2
      simp [hkey, hscope]
    · simp [hkey]
  rw [honly a, honly b, hsame]

theorem AgreeOn.incidentCandidate (type : RootCauseType) :
    a.incidentCandidate ⟨type, .socket s⟩ = b.incidentCandidate ⟨type, .socket s⟩ := by
  rw [RootCauseEngine.incidentCandidate, RootCauseEngine.incidentCandidate, h.incidentsAt type,
    h.policy]

theorem AgreeOn.classifyProbe (now : MonotonicTime) (kind : ProbeTargetKind)
    (route : Option SocketRouteContextObservation) :
    a.classifyProbe now s.netns kind route = b.classifyProbe now s.netns kind route := by
  have hcached : a.cachedProbe s.netns kind = b.cachedProbe s.netns kind := by
    rw [cachedProbe, cachedProbe, h.probes]
  simp [RootCauseEngine.classifyProbe, hcached, h.policy]

theorem AgreeOn.currentInterface (route : Option SocketRouteContextObservation) :
    a.currentInterface s.netns route = b.currentInterface s.netns route := by
  cases route with
  | some => rfl
  | none => rw [RootCauseEngine.currentInterface, RootCauseEngine.currentInterface, h.uplink]

theorem AgreeOn.classifyWifi (now : MonotonicTime) :
    a.classifyWifi now s.netns ((a.routeEvents.find? s).map Observed.observation) =
      b.classifyWifi now s.netns ((b.routeEvents.find? s).map Observed.observation) := by
  have hwifi := h.wifi
  rw [← h.route, RootCauseEngine.classifyWifi, RootCauseEngine.classifyWifi, ← h.currentInterface,
    h.policy]
  cases hselected : a.currentInterface s.netns
      ((a.routeEvents.find? s).map Observed.observation) with
  | none => rfl
  | some selected => simp only [hwifi selected hselected]
end

variable (hclock : ∀ site, clock site s = clock' site s)
include hclock

section
variable (h : AgreeOn s a b)
include h

section
variable (type : RootCauseType)
theorem AgreeOn.contextTurn (v : RootCauseHypothesisObservation) :
    a.contextTurn clock ⟨type, .socket s⟩ v = b.contextTurn clock' ⟨type, .socket s⟩ v := by
  have hrouting : ∀ standIn, a.routingHypothesis clock s standIn v =
      b.routingHypothesis clock' s standIn v := by
    intro standIn
    rw [routingHypothesis, routingHypothesis, h.policy, h.route, hclock .routingGateway]
    simp [h.classifyProbe]
  have hpath : a.pathFacts clock s = b.pathFacts clock' s := by
    rw [pathFacts, pathFacts, h.uplink, hclock .pathGateway, hclock .pathRemote, hclock .pathWifi,
      h.classifyWifi]
    simp [h.classifyProbe, h.route]
  cases type with
  | localRoutingProblem =>
    simp [RootCauseEngine.contextTurn, hrouting]
  | networkPathDegradation =>
    simp [RootCauseEngine.contextTurn, hpath, h.policy]
  | uplinkAvailabilityProblem
  | remoteOrUpstreamDegradation
  | localLinkSuspected
  | insufficientEvidence => rfl

theorem AgreeOn.context :
    a.context clock ⟨type, .socket s⟩ = b.context clock' ⟨type, .socket s⟩ := by
  rw [RootCauseEngine.context, RootCauseEngine.context, h.incidentCandidate]
  simp [h.contextTurn hclock]

theorem AgreeOn.upstreamTurn (v : RootCauseHypothesisObservation) :
    a.upstreamTurn clock ⟨type, .socket s⟩ v = b.upstreamTurn clock' ⟨type, .socket s⟩ v := by
  have hbeyond : a.beyondGateway clock s = b.beyondGateway clock' s := by
    rw [beyondGateway, beyondGateway, h.route, h.uplink, hclock .upstreamGateway,
      hclock .upstreamRemote]
    simp [h.classifyProbe]
  have hwifi : a.upstreamWifi clock s = b.upstreamWifi clock' s := by
    rw [upstreamWifi, upstreamWifi, hclock .upstreamWifi]
    exact h.classifyWifi _
  cases type with
  | networkPathDegradation =>
    simp [RootCauseEngine.upstreamTurn, hbeyond, hwifi, h.policy]
  | uplinkAvailabilityProblem
  | localRoutingProblem
  | remoteOrUpstreamDegradation
  | localLinkSuspected
  | insufficientEvidence => rfl

theorem AgreeOn.candidateAt :
    a.candidateAt clock ⟨type, .socket s⟩ = b.candidateAt clock' ⟨type, .socket s⟩ := by
  have huplink : ∀ t v, a.uplinkTurn ⟨t, .socket s⟩ v = b.uplinkTurn ⟨t, .socket s⟩ v := by
    intro t v
    cases t <;> rfl
  cases type with
  | uplinkAvailabilityProblem =>
    simp [RootCauseEngine.candidateAt, h.context hclock, huplink]
  | localRoutingProblem | networkPathDegradation | localLinkSuspected | insufficientEvidence =>
    simp [RootCauseEngine.candidateAt, h.context hclock]
  | remoteOrUpstreamDegradation =>
    simp [RootCauseEngine.candidateAt, h.context hclock, h.upstreamTurn hclock]
end
end
end Isolation

variable {v : RootCauseHypothesisObservation} {t : CandidateTurn}

section Keys
variable {engine : RootCauseEngine} {key : CandidateKey}
theorem addIncident_key (policy : RootCausePolicy) {found : Option RootCauseHypothesisObservation}
    {incident : IncidentObservation} (hfound : ∀ h ∈ found, h.key = incident.candidateKey) :
    (addIncident policy found incident).key = incident.candidateKey := by
  cases found with
  | none => rfl
  | some h => exact hfound h rfl

theorem incidentCandidate_rule {P : RootCauseHypothesisObservation → Prop}
    (hadd : ∀ found, ∀ o ∈ engine.incidentsAt key, (∀ h ∈ found, P h) →
      P (addIncident engine.policy.toRootCausePolicy found o))
    (hupgrade : ∀ h, P h → P (upgrade key h)) (h : engine.incidentCandidate key = some v) : P v := by
  rw [incidentCandidate, map_eq_some_iff] at h
  obtain ⟨c, hc, rfl⟩ := h
  refine hupgrade c (List.foldlRecOn (motive := fun found : Option _ => ∀ h ∈ found, P h) _ _
    (by simp) ?_ c hc)
  intro found hfound o ho h hh
  cases hh
  exact hadd found o ho hfound

theorem incidentCandidate_key (h : engine.incidentCandidate key = some v) : v.key = key := by
  refine incidentCandidate_rule (P := fun v => v.key = key) (fun found o ho hfound => ?_)
    (fun c hc => ?_) h
  · have hkey : o.candidateKey = key := of_decide_eq_true (List.mem_filter.mp ho).2
    rw [addIncident_key, hkey]
    exact fun h hh => (hfound h hh).trans hkey.symm
  · rw [upgrade]
    split_ifs
    all_goals exact hc

@[simp] theorem addFindings_key (policy : RootCausePolicy) (h : RootCauseHypothesisObservation)
    (f : Findings) : (h.addFindings policy f).key = h.key := rfl

@[simp] theorem withConfidence_key (h : RootCauseHypothesisObservation) (c : HypothesisConfidence) :
    RootCauseHypothesisObservation.key { h with confidence := c } = h.key := rfl

@[simp] theorem derived_key (h : RootCauseHypothesisObservation) (type : RootCauseType)
    (scope : IncidentScope) (c : HypothesisConfidence) (reason : String) :
    (h.derived type scope c reason).key = ⟨type, scope⟩ := rfl

theorem pathHypothesis_key (policy : RootCausePolicy) (facts : PathFacts) (standIn : Fallbacks)
    (scope : IncidentScope) (routed : RootCauseHypothesisObservation) :
    (pathHypothesis policy facts standIn scope routed).key = routed.key := by
  rw [pathHypothesis, withConfidence_key]
  simp [addFindings_key]

theorem routingHypothesis_key (socket : SocketId)
    (standIn : Observed SocketRouteContextObservation) :
    (engine.routingHypothesis clock socket standIn v).key = v.key := by
  rw [routingHypothesis]
  split
  · rfl
  · rfl

theorem contextTurn_key (h : engine.contextTurn clock key v = .ok t) :
    t.value.key = v.key ∧ ∀ e ∈ t.fresh, e.2.key = e.1 := by
  rcases contextTurn_cases h with ⟨socket, standIn, rfl, -, rfl⟩ | ⟨socket, standIn, rfl, -, rfl⟩ |
    ⟨-, -, rfl⟩
  · exact ⟨routingHypothesis_key socket standIn, List.forall_mem_nil _⟩
  · refine ⟨?_, fun e he => ?_⟩
    · rw [pathTurn, pathHypothesis_key, addFindings_key]
    · rw [pathTurn] at he
      dsimp only at he
      split_ifs at he
      · rw [List.mem_singleton.mp he, localLink]
        simp [addFindings_key, derived_key]
      · cases he
  · exact ⟨rfl, List.forall_mem_nil _⟩

theorem uplinkTurn_key (h : engine.uplinkTurn key v = .ok t) : t.value.key = v.key := by
  rw [uplinkTurn] at h
  split at h
  · cases h
    simp only [uplinkHypothesis]
    split
    · split_ifs
      all_goals rfl
    · rfl
  · cases h
  · rw [← Except.ok.inj h]

theorem exists_turn_of_toOption {r : Except RootCauseError CandidateTurn} (h : r.toOption = some t) :
    r = .ok t := by
  cases r with
  | error => cases h
  | ok => rw [← Option.some.inj h]

theorem candidateAt_key (h : engine.candidateAt clock key = some v) : v.key = key := by
  obtain ⟨type, scope⟩ := key
  cases type with
  | uplinkAvailabilityProblem =>
    simp only [candidateAt, bind_eq_some_iff, map_eq_some_iff] at h
    obtain ⟨t, ht, t', ht', rfl⟩ := h
    obtain ⟨c, hc, hturn⟩ := context_eq_some.mp ht
    rw [uplinkTurn_key (exists_turn_of_toOption ht'), (contextTurn_key hturn).1,
      incidentCandidate_key hc]
  | localRoutingProblem | networkPathDegradation =>
    simp only [candidateAt, map_eq_some_iff] at h
    obtain ⟨t, ht, rfl⟩ := h
    obtain ⟨c, hc, hturn⟩ := context_eq_some.mp ht
    rw [(contextTurn_key hturn).1, incidentCandidate_key hc]
  | remoteOrUpstreamDegradation =>
    simp only [candidateAt, bind_eq_some_iff] at h
    obtain ⟨t, -, t', ht', hhead⟩ := h
    exact ((upstreamTurn_frame (exists_turn_of_toOption ht')).2.2.2 v (List.mem_of_head? hhead)).2
  | localLinkSuspected =>
    simp only [candidateAt, bind_eq_some_iff, map_eq_some_iff] at h
    obtain ⟨t, ht, e, he, rfl⟩ := h
    obtain ⟨c, -, hturn⟩ := context_eq_some.mp ht
    have hmem := List.mem_of_head? he
    rw [(contextTurn_key hturn).2 e hmem, ((contextTurn_frame hturn).fresh e hmem).2]
  | insufficientEvidence =>
    simp only [candidateAt, bind_eq_some_iff] at h
    obtain ⟨t, ht, hhead⟩ := h
    obtain ⟨c, -, hturn⟩ := context_eq_some.mp ht
    exact ((contextTurn_frame hturn).pushed v (List.mem_of_head? hhead)).2
end Keys

section Grounding
variable {engine : RootCauseEngine} {key : CandidateKey}

/-- An active incident of the scope that justifies the diagnosis. -/
def Justified (incidents : OrderedMap ℕ IncidentObservation) (type : RootCauseType)
    (scope : IncidentScope) : Prop :=
  ∃ id o, incidents.find? id = some o ∧ o.scope = scope ∧ o.type.justifies type = true

theorem incidentRule_justifies (type : IncidentType) :
    type.justifies (incidentRule type).type := by
  cases type <;> rfl

theorem justifies_derived {type : IncidentType}
    (h : (incidentRule type).type = .networkPathDegradation) (derived : RootCauseType)
    (hderived : derived = .remoteOrUpstreamDegradation ∨ derived = .localLinkSuspected ∨
      derived = .insufficientEvidence) : type.justifies derived := by
  cases type with
  | highTcpRtt | elevatedTcpRetransmission => rcases hderived with rfl | rfl | rfl <;> rfl
  | routeUnavailable | uplinkUnavailable | socketRouteConflict => cases h

theorem context_incident (h : engine.context clock key = some t) :
    ∃ id o, engine.activeIncidents.find? id = some o ∧ o.candidateKey = key := by
  obtain ⟨c, hc, -⟩ := context_eq_some.mp h
  obtain ⟨o, ho⟩ := exists_incident hc
  obtain ⟨id, hfind, hkey⟩ := mem_incidentsAt.mp ho
  exact ⟨id, o, hfind, hkey⟩

theorem justified_of_context (h : engine.context clock key = some t) :
    Justified engine.activeIncidents key.type key.scope := by
  obtain ⟨id, o, hfind, rfl⟩ := context_incident h
  exact ⟨id, o, hfind, rfl, incidentRule_justifies o.type⟩

theorem justified_of_path {scope : IncidentScope} {derived : RootCauseType}
    (h : engine.context clock ⟨.networkPathDegradation, scope⟩ = some t)
    (hderived : derived = .remoteOrUpstreamDegradation ∨ derived = .localLinkSuspected ∨
      derived = .insufficientEvidence) : Justified engine.activeIncidents derived scope := by
  obtain ⟨id, o, hfind, hkey⟩ := context_incident h
  obtain ⟨htype, hscope⟩ := CandidateKey.mk.inj hkey
  exact ⟨id, o, hfind, hscope, justifies_derived htype derived hderived⟩

theorem candidateAt_justified (h : engine.candidateAt clock key = some v) :
    Justified engine.activeIncidents key.type key.scope := by
  obtain ⟨type, scope⟩ := key
  cases type with
  | uplinkAvailabilityProblem | localRoutingProblem | networkPathDegradation =>
    simp only [candidateAt, bind_eq_some_iff, map_eq_some_iff] at h
    obtain ⟨t, ht, -⟩ := h
    exact justified_of_context ht
  | remoteOrUpstreamDegradation | localLinkSuspected | insufficientEvidence =>
    simp only [candidateAt, bind_eq_some_iff] at h
    obtain ⟨t, ht, -⟩ := h
    exact justified_of_path ht (by simp)

variable {event : NetworkEvent} {o : IncidentObservation}
theorem scopeNetns_of_fits (hpayload : event.payload = .incident o) (hfits : o.scope.fits o.type) :
    scopeNetns o.scope = event.header.netns := by
  have haccepted := event.payloadError_eq_none
  simp only [hpayload, payloadError] at haccepted
  split_ifs at haccepted with hmatch
  cases hscope : o.scope with
  | interface =>
    rw [hscope] at hfits
    exact absurd hfits id
  | netns | socket =>
    rw [hscope] at hmatch
    simpa [scopeMatches, scopeNetns] using hmatch

theorem unpackable_of_fits (hpayload : event.payload = .incident o) (hfits : o.scope.fits o.type) :
    o.candidateKey.Unpackable := by
  have hinode := event.netns_inode
  rw [← scopeNetns_of_fits hpayload hfits] at hinode
  cases hscope : o.scope with
  | interface =>
    rw [hscope] at hfits
    exact absurd hfits id
  | netns | socket =>
    rw [hscope] at hfits hinode
    rw [scopeNetns] at hinode
    cases htype : o.type <;> rw [htype] at hfits <;>
      simp_all [IncidentScope.fits, CandidateKey.Unpackable, IncidentObservation.candidateKey,
        incidentRule]

structure Grounded (g : History) : Prop where
  unpackable : ∀ id o, g.engine.activeIncidents.find? id = some o → o.candidateKey.Unpackable
  keyed : ∀ k h, g.engine.active.find? k = some h → h.key = k
  justified : ∀ k h, g.engine.active.find? k = some h →
    Justified g.engine.activeIncidents k.type k.scope

variable {μ : Moment}
theorem Moment.candidate {k : CandidateKey} : μ.desired.find? k = μ.engine.candidateAt μ.clock k :=
  buildCandidatesLocked_find? μ.built

theorem reconcileAll_keyed {now : RealtimeTime} {w w' : Working}
    (hw : ∀ k h, w.engine.active.find? k = some h → h.key = k)
    (hall : reconcileAll μ.desired now w = .ok w') :
    ∀ k h, w'.engine.active.find? k = some h → h.key = k := by
  apply (reconcileAll_rule (Q := fun _ => True)
    (P := fun w => ∀ k h, w.engine.active.find? k = some h → h.key = k) _
    (fun _ _ _ _ _ _ _ => trivial) hw).1 w' hall
  intro w₁ key c w₂ hc hw₁ hturn
  have hkey : c.key = key := candidateAt_key (Moment.candidate.symm.trans hc)
  cases hturn with
  | kept | full => exact hw₁
  | updated | opened =>
    intro k h hh
    simp only [setActive_find?, openHypothesis_find?] at hh
    split_ifs at hh with hk
    · cases hh
      rw [← hk]
      exact hkey
    · exact hw₁ k h hh

theorem Grounded.step {g g' : History} {delivery : Delivery} (h : Grounded g)
    (hfits : ∀ o, delivery.event.payload = .incident o →
      delivery.event.header.source = .incidentEngine → o.scope.fits o.type)
    (hstep : Stepped g delivery g') : Grounded g' := by
  have hunpack : ∀ next, g.engine.absorb delivery.event = .changed next → ∀ id o,
      next.activeIncidents.find? id = some o → o.candidateKey.Unpackable := by
    intro next habsorb id o ho
    rcases (absorb_frame habsorb).incidents id o ho with hold | ⟨hpayload, hsource, -⟩
    · exact h.unpackable id o hold
    · exact unpackable_of_fits hpayload (hfits o hpayload hsource)
  cases hstep with
  | quiet => exact h
  | threw next _ habsorb hbuilt =>
    obtain ⟨m, hm⟩ := buildCandidatesLocked_ok_iff.mpr (hunpack next habsorb)
    rw [hm] at hbuilt
    cases hbuilt
  | reconciled μ w habsorb _ hall =>
    have hframe := absorb_frame habsorb
    have hcaches := (reconcileAll_caches.1 w hall).trans
      (resolveAll_caches delivery.event.header.observedAt μ.desired w)
    have hincidents := hcaches.activeIncidents
    have hkeyed := reconcileAll_keyed (w := ⟨μ.engine, []⟩)
      (fun k h' hk => h.keyed k h' (by rw [← hframe.active]; exact hk)) hall
    refine ⟨fun id o ho => ?_, fun k h' hk => ?_, fun k h' hk => ?_⟩
    · rw [← hincidents] at ho
      exact hunpack μ.engine habsorb id o ho
    · rw [resolveAll_find?] at hk
      split_ifs at hk
      exact hkeyed k h' hk
    · rw [resolveAll_find?] at hk
      split_ifs at hk with hwanted
      obtain ⟨c, hc⟩ := contains_iff.mp hwanted
      rw [← hincidents]
      exact candidateAt_justified (Moment.candidate.symm.trans hc)
end Grounding

/-- Whatever route, uplink, probe and Wi-Fi events arrive, and in whatever order: as long as the
incident events are those of an incident engine, every active hypothesis has an active incident
of its scope that justifies it. Only the exhaustion of all occurrence numbers ends a run. -/
theorem hypotheses_grounded (policy : AcceptedRootCausePolicy) (deliveries : List Delivery)
    (hpublished : ∀ d ∈ deliveries, ∀ o, d.event.payload = .incident o →
      d.event.header.source = .incidentEngine →
        ∃ incidentPolicy events, o ∈ (IncidentEngine.trace incidentPolicy events).log) :
    ((history policy deliveries).exhausted = false →
      ∀ h ∈ (history policy deliveries).engine.listActiveHypotheses,
        Justified (history policy deliveries).engine.activeIncidents h.type h.scope) ∧
    ((history policy deliveries).exhausted = true →
      (history policy deliveries).engine.issued = 2 ^ 64 - 1) := by
  refine ⟨fun hgoing => ?_, issued_of_exhausted⟩
  have hgrounded : Grounded (history policy deliveries) := by
    apply history_rule policy deliveries _ _ hgoing
    · refine ⟨fun id o ho => ?_, fun k h hk => ?_, fun k h hk => ?_⟩
      · cases ho
      all_goals cases hk
    · intro g d g' hd hg hstep
      apply hg.step _ hstep
      intro o hpayload hsource
      obtain ⟨incidentPolicy, events, ho⟩ := hpublished d hd o hpayload hsource
      exact (trace_fits incidentPolicy events).2 o ho
  intro h hh
  obtain ⟨⟨key, h'⟩, hmem, rfl⟩ := List.mem_map.mp hh
  have hfind := mem_entries.mp hmem
  obtain ⟨htype, hscope⟩ := CandidateKey.mk.inj (hgrounded.keyed key h' hfind)
  have hjustified := hgrounded.justified key h' hfind
  rwa [← htype, ← hscope] at hjustified

def sampleIncident : IncidentObservation :=
  { IncidentObservation.blank with
    id := 1
    type := .uplinkUnavailable
    scope := .netns ⟨4, 1⟩
    confidence := .high
    evidence := [⟨.uplinkObservation, .netlinkCollector, .netns ⟨4, 1⟩, 0, 0, none, .none, .valid,
      "authoritative model has no usable selected uplink"⟩]
    condition := "authoritative model has no usable selected uplink" }

def sampleHeader (kind : EventKind) (source : EventSource) : NetworkEventHeader where
  schemaVersion := 1
  eventId := 1
  sequence := 0
  kind := kind
  source := source
  observedAt := 0
  monotonicAt := 0
  netns := ⟨4, 1⟩
  interface := none
  socket := none
  validity := .valid
  status := none

def sampleUplink : NetworkEvent :=
  ⟨sampleHeader .uplinkObservation .netlinkCollector, .uplink ⟨[], 0, false, ""⟩, by decide⟩

def incidentDelivery (o : IncidentObservation)
    (h : constructorError (sampleHeader .incidentObservation .incidentEngine) (.incident o) = none) :
    Delivery :=
  ⟨⟨_, _, h⟩, fun _ _ => 0⟩

def sampleDelivery : Delivery := incidentDelivery sampleIncident (by decide)

theorem hypotheses_grounded_sample :
    (history .standard [sampleDelivery]).engine.listActiveHypotheses.length = 1 ∧
      ∀ h ∈ (history .standard [sampleDelivery]).engine.listActiveHypotheses,
        Justified (history .standard [sampleDelivery]).engine.activeIncidents h.type h.scope := by
  refine ⟨by decide +kernel, (hypotheses_grounded .standard [sampleDelivery] ?_).1
    (by decide +kernel)⟩
  intro d hd o hpayload _
  rw [List.mem_singleton.mp hd] at hpayload
  have ho : sampleIncident = o := NetworkEventPayload.incident.inj hpayload
  refine ⟨⟨.standard, by decide +kernel⟩, [sampleUplink, sampleUplink], ?_⟩
  rw [← ho]
  decide +kernel

/-- An incident about a route with the scope of an uplink, which only another producer can publish,
makes `buildCandidatesLocked` throw, so that the resolution of the uplink incident goes unnoticed. -/
theorem stray_incident_ungrounds :
    let g := history .standard [sampleDelivery,
      incidentDelivery { sampleIncident with id := 2, type := .routeUnavailable } (by decide),
      incidentDelivery { sampleIncident with state := .resolved } (by decide)]
    g.exhausted = false ∧ ∃ h ∈ g.engine.listActiveHypotheses,
      ¬ Justified g.engine.activeIncidents h.type h.scope := by
  intro g
  have hincidents : ∀ e ∈ g.engine.activeIncidents.entries,
      e.2.type.justifies .uplinkAvailabilityProblem = false := by decide +kernel
  have hlisted : ∃ h ∈ g.engine.listActiveHypotheses, h.type = .uplinkAvailabilityProblem := by
    decide +kernel
  obtain ⟨h, hh, htype⟩ := hlisted
  refine ⟨by decide +kernel, h, hh, ?_⟩
  rintro ⟨id, o, ho, -, hjustifies⟩
  rw [htype, hincidents (id, o) (mem_entries.mpr ho)] at hjustifies
  cases hjustifies

def sampleSocket (inode : ℕ) : SocketId := ⟨⟨4, inode⟩, some 7, 1⟩

def samplePathIncident (id : ℕ) (inode : ℕ) : IncidentObservation :=
  { IncidentObservation.blank with id := id, scope := .socket (sampleSocket inode) }

def sampleEngine (incidents : OrderedMap ℕ IncidentObservation) : RootCauseEngine :=
  { initial .standard with activeIncidents := incidents }

def sampleIncidents : OrderedMap ℕ IncidentObservation :=
  OrderedMap.empty.insert 1 (samplePathIncident 1 1)

theorem sample_agree {other : IncidentObservation} (h : other.scope ≠ .socket (sampleSocket 1)) :
    AgreeOn (sampleSocket 1) (sampleEngine sampleIncidents)
      (sampleEngine (sampleIncidents.insert 2 other)) := by
  refine ⟨rfl, fun id o ho => ?_, rfl, rfl, rfl, fun selected _ => rfl⟩
  simp only [sampleEngine, sampleIncidents, find?_insert, find?_empty]
  by_cases hid : 2 = id
  · subst hid
    refine ⟨fun hfind => (by simp at hfind), fun hfind => ?_⟩
    obtain rfl : other = o := by simpa using hfind
    exact absurd ho h
  · simp [hid]

theorem sample_built {incidents : OrderedMap ℕ IncidentObservation}
    (hall : ∀ e ∈ incidents.entries, e.2 = samplePathIncident 1 1 ∨ e.2 = samplePathIncident 2 2) :
    ∃ m, (sampleEngine incidents).buildCandidatesLocked (fun _ _ => 0) = .ok m := by
  apply buildCandidatesLocked_ok_iff.mpr
  intro id o ho
  rcases hall (id, o) (mem_entries.mpr ho) with h | h <;> rw [show o = _ from h]
  · exact Nat.one_ne_zero
  · exact Nat.succ_ne_zero 1

theorem sample_contains {m : CandidateMap}
    (hm : (sampleEngine sampleIncidents).buildCandidatesLocked (fun _ _ => 0) = .ok m) :
    m.contains ⟨.networkPathDegradation, .socket (sampleSocket 1)⟩ = true := by
  rw [contains, buildCandidatesLocked_find? hm]
  decide +kernel

end RootCauseEngine
end WeakNet
