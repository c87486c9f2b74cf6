import WeakNet.RootCauseEvidence

/-! `buildCandidatesLocked` in its passes. The context pass emplaces local-link candidates into the
map it walks. Each step of the source that adds evidence is a value of `Findings`; the three lists
of a hypothesis grow independently. -/

namespace WeakNet
open Foundation Foundation.OrderedMap

inductive RootCauseError where
  | badVariantAccess
  | invalidEvent (text : String)
  | occurrenceExhausted
deriving DecidableEq

structure Findings where
  supporting : List RootCauseEvidence
  contradicting : List RootCauseEvidence
  missing : List RootCauseEvidence

namespace Findings
def empty : Findings := ⟨[], [], []⟩

def support (evidence : RootCauseEvidence) : Findings := ⟨[evidence], [], []⟩

def contradict (evidence : RootCauseEvidence) : Findings := ⟨[], [evidence], []⟩

def lack (evidence : RootCauseEvidence) : Findings := ⟨[], [], [evidence]⟩

instance : Append Findings where
  append f g := ⟨f.supporting ++ g.supporting, f.contradicting ++ g.contradicting,
    f.missing ++ g.missing⟩
end Findings

namespace RootCauseHypothesisObservation
def blank : RootCauseHypothesisObservation where
  id := ⟨.insufficientEvidence, .netns ⟨0, 0⟩, 0⟩
  type := .insufficientEvidence
  scope := .netns ⟨0, 0⟩
  state := .active
  confidence := .low
  openedAt := 0
  lastUpdatedAt := 0
  resolvedAt := none
  supportingEvidence := []
  contradictingEvidence := []
  missingEvidence := []
  reasonCode := ""
  provenance := .rootCauseEngine

def fresh (type : RootCauseType) (scope : IncidentScope) (reason : String)
    (timestamp : RealtimeTime) : RootCauseHypothesisObservation :=
  { blank with
    type := type
    scope := scope
    openedAt := timestamp
    lastUpdatedAt := timestamp
    reasonCode := reason }

def derived (h : RootCauseHypothesisObservation) (type : RootCauseType) (scope : IncidentScope)
    (confidence : HypothesisConfidence) (reason : String) : RootCauseHypothesisObservation :=
  { blank with
    type := type
    scope := scope
    openedAt := h.openedAt
    lastUpdatedAt := h.lastUpdatedAt
    confidence := confidence
    reasonCode := reason }

def addFindings (policy : RootCausePolicy) (h : RootCauseHypothesisObservation) (f : Findings) :
    RootCauseHypothesisObservation :=
  { h with
    supportingEvidence := f.supporting.foldl (addEvidence policy) h.supportingEvidence
    contradictingEvidence := f.contradicting.foldl (addEvidence policy) h.contradictingEvidence
    missingEvidence := f.missing.foldl (addEvidence policy) h.missingEvidence }

def key (h : RootCauseHypothesisObservation) : CandidateKey := ⟨h.type, h.scope⟩
end RootCauseHypothesisObservation

structure IncidentRule where
  type : RootCauseType
  reason : String
  confidence : HypothesisConfidence

def incidentRule : IncidentType → IncidentRule
  | .uplinkUnavailable => ⟨.uplinkAvailabilityProblem, "active_uplink_unavailable", .high⟩
  | .routeUnavailable => ⟨.localRoutingProblem, "authoritative_no_modeled_route", .high⟩
  | .socketRouteConflict => ⟨.localRoutingProblem, "socket_route_evidence_conflict", .medium⟩
  | .highTcpRtt | .elevatedTcpRetransmission =>
    ⟨.networkPathDegradation, "observed_tcp_path_degradation", .low⟩

def IncidentObservation.candidateKey (incident : IncidentObservation) : CandidateKey :=
  ⟨(incidentRule incident.type).type, incident.scope⟩

def addIncident (policy : RootCausePolicy) (found : Option RootCauseHypothesisObservation)
    (incident : IncidentObservation) : RootCauseHypothesisObservation :=
  let rule := incidentRule incident.type
  let h := found.getD (.fresh rule.type incident.scope rule.reason incident.openedAt)
  { h with
    confidence := h.confidence.max rule.confidence
    supportingEvidence := addEvidence policy h.supportingEvidence
      (incidentEvidence incident .supporting (evidenceKind incident.type))
    lastUpdatedAt := max h.lastUpdatedAt incident.lastUpdatedAt }

def hasKind (kind : RootCauseEvidenceKind) (evidence : List RootCauseEvidence) : Bool :=
  evidence.any (fun e => e.kind == kind)

def upgrade (key : CandidateKey) (h : RootCauseHypothesisObservation) :
    RootCauseHypothesisObservation :=
  if key.type = .networkPathDegradation ∧ hasKind .highTcpRtt h.supportingEvidence ∧
      hasKind .elevatedTcpRetransmission h.supportingEvidence then
    { h with confidence := .medium }
  else h

def syntheticHeader (kind : EventKind) (source : EventSource) (netns : NetnsId)
    (socket : Option SocketId) : NetworkEventHeader where
  schemaVersion := networkEventSchemaVersion
  eventId := 1
  sequence := 0
  kind := kind
  source := source
  observedAt := 0
  monotonicAt := 0
  netns := netns
  interface := none
  socket := socket
  validity := .unavailable
  status := none

def syntheticRouteEvent (socket : SocketId) : Except String (Observed SocketRouteContextObservation) :=
  Observed.make .socketRoute (syntheticHeader .socketRouteObservation .socketTracker socket.netns socket)
    { socketId := socket
      netns := socket.netns
      destination := ⟨0, .zero, 0⟩
      route := none
      possibleInterfaces := []
      selectedInterface := none
      uplinkRelationship := .unknown
      diagIfindex := none
      attributionStatus := .unavailable
      reasons := ∅
      topologyGeneration := 0
      topologyAuthoritative := false }

def syntheticUplinkEvent (netns : NetnsId) : Except String (Observed UplinkObservation) :=
  Observed.make .uplink (syntheticHeader .uplinkObservation .netlinkCollector netns none)
    { interfaceName := [], methodFlags := 0, selected := false, evidence := "" }

def syntheticProbeEvent (netns : NetnsId) (kind : ProbeTargetKind) :
    Except String (Observed ProbeObservation) :=
  Observed.make .probe (syntheticHeader .probeObservation .activeProbe netns none)
    { target := ⟨kind, netns, 0, .zero, none, 0, ""⟩
      netns := netns
      observedAt := 0
      monotonicAt := 0
      sequence := 0
      status := .noTarget
      rttUs := none
      validity := .unavailable
      source := .activeProbe
      transport := ""
      failureReason := "" }

def syntheticWifiEvent (netns : NetnsId) : Except String (Observed WifiObservation) :=
  Observed.make .wifi (syntheticHeader .wifiObservation .wifiCollector netns none)
    { netns := netns
      interface := none
      interfaceGeneration := 0
      linkState := .unknown
      capability := .error
      nl80211Iftype := none
      bssid := none
      ssid := none
      frequencyMhz := none
      signalDbm := none
      signalAvgDbm := none
      txBitrateKbps := none
      rxBitrateKbps := none
      txRetries := none
      txFailed := none
      rxPackets := none
      txPackets := none
      rxBytes := none
      txBytes := none
      observedAt := 0
      monotonicAt := 0
      source := .wifiCollector
      validity := .unavailable
      status := "" }

/-- The stand-ins for one socket. They carry the same namespace, so the constructor accepts
all of them or none, and the source always builds at least one. -/
structure Fallbacks where
  route : Observed SocketRouteContextObservation
  uplink : Observed UplinkObservation
  gateway : Observed ProbeObservation
  remote : Observed ProbeObservation
  wifi : Observed WifiObservation

def fallbacks (socket : SocketId) : Except String Fallbacks := do
  let route ← syntheticRouteEvent socket
  let uplink ← syntheticUplinkEvent socket.netns
  let gateway ← syntheticProbeEvent socket.netns .gateway
  let remote ← syntheticProbeEvent socket.netns .remote
  let wifi ← syntheticWifiEvent socket.netns
  return ⟨route, uplink, gateway, remote, wifi⟩

def routeUsable (route : Observed SocketRouteContextObservation) : Bool :=
  route.observation.attributionStatus == .available && route.observation.topologyAuthoritative &&
  usableValidity route.header.validity

structure PathFacts where
  route : Option (Observed SocketRouteContextObservation)
  uplink : Option (Observed UplinkObservation)
  gateway : ProbeFact
  remote : ProbeFact
  wifi : WifiFact

namespace PathFacts
def usableRoute (facts : PathFacts) : Option (Observed SocketRouteContextObservation) :=
  facts.route.filter routeUsable

def usableUplink (facts : PathFacts) : Option (Observed UplinkObservation) :=
  facts.uplink.filter (fun uplink => uplink.observation.selected &&
    uplink.observation.methodFlags != 0 && usableValidity uplink.header.validity)

def wifiNotAssociated (facts : PathFacts) : Bool := facts.wifi.meaning == .notAssociated

def wifiAssociatedAs (facts : PathFacts) (category : WifiSignalCategory) : Bool :=
  facts.wifi.meaning == .associated &&
  facts.wifi.entry.any (fun entry => entry.signalCategory == category)

def wifiVeryWeak (facts : PathFacts) : Bool := facts.wifiAssociatedAs .veryWeak

def wifiWeak (facts : PathFacts) : Bool :=
  facts.wifiAssociatedAs .weak || facts.wifiAssociatedAs .veryWeak

def gatewayDegraded (facts : PathFacts) : Bool :=
  facts.gateway.meaning == .highRtt || facts.gateway.meaning == .timeout

def localWifiContext (facts : PathFacts) : Bool :=
  facts.wifiNotAssociated || (facts.wifiWeak && facts.gatewayDegraded)

def probeContextMissing (facts : PathFacts) : Bool :=
  facts.usableRoute.isSome && facts.usableUplink.isSome && !facts.localWifiContext &&
  (!facts.gateway.meaning.usableProbeContext || !facts.remote.meaning.usableProbeContext)
end PathFacts

section Path
variable (policy : RootCausePolicy) (facts : PathFacts) (standIn : Fallbacks)
  (scope : IncidentScope)
def routeFindings : Findings :=
  match facts.usableRoute with
  | some route => .support (observationEvidence route.header scope .supporting
      .modeledRouteAvailable .available "authoritative modeled route available")
  | none => .lack (observationEvidence standIn.route.header scope .missing
      .topologyUnavailable .unavailable "authoritative route context unavailable")

def uplinkFindings : Findings :=
  match facts.usableUplink with
  | some uplink => .support (observationEvidence uplink.header scope .supporting
      .usableUplinkAvailable .available "authoritative selected uplink available")
  | none => .lack (observationEvidence standIn.uplink.header scope .missing
      .topologyUnavailable .unavailable "authoritative uplink state unavailable")

/-- `addProbeFact`. A reachable gateway supports a problem on the path, a reachable remote
contradicts it. -/
def probeFindings (kind : ProbeTargetKind) (fact : ProbeFact)
    (fallback : Observed ProbeObservation) : Findings :=
  let source := fact.event.getD fallback
  let evidence := fun role kind capability =>
    probeEvidence source scope role kind capability fact.provenance
  match fact.meaning, kind with
  | .reachable, .gateway =>
    .support (evidence .supporting .gatewayProbeReachable fact.capability)
  | .reachable, .remote =>
    .contradict (evidence .contradicting .remoteProbeReachable fact.capability)
  | .highRtt, .gateway => .support (evidence .supporting .gatewayProbeHighRtt fact.capability)
  | .highRtt, .remote => .support (evidence .supporting .remoteProbeHighRtt fact.capability)
  | .timeout, .gateway => .support (evidence .supporting .gatewayProbeTimeout fact.capability)
  | .timeout, .remote => .support (evidence .supporting .remoteProbeTimeout fact.capability)
  | .stale, _ => .lack (evidence .missing .probeEvidenceStale .unavailable)
  | .missing, .gateway => .lack (evidence .missing .gatewayProbeUnavailable fact.capability)
  | .missing, .remote => .lack (evidence .missing .remoteProbeUnavailable fact.capability)

def signalFindings (entry : WifiCacheEntry) : Findings :=
  match entry.signalCategory with
  | .normal => .support (wifiEvidence entry scope .supporting .wifiSignalNormal
      "fresh Wi-Fi signal is outside weak-signal heuristic")
  | .weak => .support (wifiEvidence entry scope .supporting .wifiSignalWeak
      "fresh Wi-Fi signal is weak contextual evidence")
  | .veryWeak => .support (wifiEvidence entry scope .supporting .wifiSignalVeryWeak
      "fresh Wi-Fi signal is very weak contextual evidence")
  | .none => .empty

def bitrateFindings (entry : WifiCacheEntry) : Findings :=
  if entry.event.observation.txBitrateKbps.any (fun rate => rate < policy.wifiTxBitrateLowKbps) then
    .support (wifiEvidence entry scope .supporting .wifiTxBitrateLow
      "low TX bitrate is weak contextual evidence")
  else .empty

def wifiUnavailable : Findings :=
  match facts.wifi.entry with
  | some entry => .lack { wifiEvidence entry scope .missing
      (match facts.wifi.meaning with
        | .stale => .wifiEvidenceStale
        | .mismatch => .wifiInterfaceMismatch
        | _ => .wifiEvidenceUnavailable) facts.wifi.provenance with capability := .unavailable }
  | none => .lack (observationEvidence standIn.wifi.header scope .missing .wifiEvidenceUnavailable
      .unavailable facts.wifi.provenance)

def wifiFindings : Findings :=
  match facts.wifi.entry, facts.wifi.meaning with
  | some entry, .associated =>
    .support (wifiEvidence entry scope .supporting .wifiAssociated facts.wifi.provenance) ++
      signalFindings scope entry ++ bitrateFindings policy scope entry
  | some entry, .notAssociated =>
    .support (wifiEvidence entry scope .supporting .wifiNotAssociated facts.wifi.provenance)
  | _, _ => wifiUnavailable facts standIn scope

/-- The rules of the source in order; both incident kinds are looked up in the list of
supporting evidence as it stands after all context has been added. -/
def pathConfidence (confidence : HypothesisConfidence) (supporting : List RootCauseEvidence) :
    HypothesisConfidence :=
  let gateway := facts.gateway.meaning
  let remote := facts.remote.meaning
  let confidence := if gateway = .highRtt ∧ confidence = .low then .medium else confidence
  let confidence := if remote = .highRtt ∧ confidence = .low then .medium else confidence
  if gateway = .reachable ∧ (remote = .highRtt ∨ remote = .timeout) then
    if confidence = .low then .medium
    else if confidence = .medium ∧ remote = .highRtt ∧ hasKind .highTcpRtt supporting ∧
        hasKind .elevatedTcpRetransmission supporting then .high
    else confidence
  else confidence

def pathHypothesis (routed : RootCauseHypothesisObservation) : RootCauseHypothesisObservation :=
  let h := (((routed.addFindings policy (uplinkFindings facts standIn scope)).addFindings policy
    (probeFindings scope .gateway facts.gateway standIn.gateway)).addFindings policy
    (probeFindings scope .remote facts.remote standIn.remote)).addFindings policy
    (wifiFindings policy facts standIn scope)
  { h with confidence := pathConfidence facts h.confidence h.supportingEvidence }

def topologyInsufficient (routed : RootCauseHypothesisObservation) :
    RootCauseHypothesisObservation :=
  (routed.derived .insufficientEvidence scope .low "tcp_path_context_unavailable").addFindings
    policy ⟨routed.supportingEvidence, [],
      routed.missingEvidence.filter (fun e => e.kind == .topologyUnavailable)⟩

def localWifiFindings : Findings :=
  match facts.wifi.entry with
  | some entry =>
    .support (wifiEvidence entry scope .supporting
      (if facts.wifiNotAssociated then .wifiNotAssociated
        else if facts.wifiVeryWeak then .wifiSignalVeryWeak else .wifiSignalWeak)
      facts.wifi.provenance) ++
    (if facts.wifiNotAssociated then .empty
      else .support (wifiEvidence entry scope .supporting .wifiAssociated
        "current Wi-Fi association is present"))
  | none => .empty

def localGatewayFindings : Findings :=
  match facts.gateway.event, facts.gateway.meaning with
  | some event, .highRtt => .support (probeEvidence event scope .supporting .gatewayProbeHighRtt
      .available facts.gateway.provenance)
  | some event, .timeout => .support (probeEvidence event scope .supporting .gatewayProbeTimeout
      .available facts.gateway.provenance)
  | _, _ => .empty

def citedIncidents (h : RootCauseHypothesisObservation) : List RootCauseEvidence :=
  h.supportingEvidence.filter RootCauseEvidence.isPathIncident

def localLink (h : RootCauseHypothesisObservation) : RootCauseHypothesisObservation :=
  let confidence : HypothesisConfidence :=
    if facts.wifiNotAssociated ∨ facts.wifiVeryWeak ∨
        HypothesisConfidence.medium.rank ≤ h.confidence.rank then .medium else .low
  let reason := if facts.wifiNotAssociated
    then "current_wifi_not_associated_during_path_degradation"
    else "weak_current_wifi_and_gateway_degradation"
  ((((h.derived .localLinkSuspected scope confidence reason).addFindings policy
    ⟨citedIncidents h, [], []⟩).addFindings policy (localWifiFindings facts scope)).addFindings
    policy (localGatewayFindings facts scope)).addFindings policy
    (.lack (observationEvidence standIn.gateway.header scope .missing
      .gatewayDeviceHealthUnavailable .notImplemented
      "gateway/AP health is not directly observed"))

def probeInsufficient (h : RootCauseHypothesisObservation) : RootCauseHypothesisObservation :=
  (h.derived .insufficientEvidence scope .low "tcp_probe_context_unavailable").addFindings policy
    ⟨citedIncidents h, [], h.missingEvidence.filter (fun e =>
      e.kind == .gatewayProbeUnavailable || e.kind == .remoteProbeUnavailable ||
      e.kind == .probeEvidenceStale)⟩

def pathTurn (candidate : RootCauseHypothesisObservation) :
    Turn CandidateKey RootCauseHypothesisObservation RootCauseHypothesisObservation :=
  let routed := candidate.addFindings policy (routeFindings facts standIn scope)
  let h := pathHypothesis policy facts standIn scope routed
  { value := h
    fresh := if facts.localWifiContext then
        [(⟨.localLinkSuspected, scope⟩, localLink policy facts standIn scope h)] else []
    pushed := (if facts.usableRoute.isSome then [] else [topologyInsufficient policy scope routed]) ++
      if facts.probeContextMissing then [probeInsufficient policy scope h] else [] }
end Path

def routingFindings (route : Observed SocketRouteContextObservation) (gateway : ProbeFact)
    (scope : IncidentScope) : Findings :=
  (if routeUsable route then .contradict (observationEvidence route.header scope .contradicting
      .modeledRouteAvailable .available "authoritative modeled route is available") else .empty) ++
  match gateway.event, gateway.meaning with
  | some event, .reachable => .contradict (probeEvidence event scope .contradicting
      .gatewayProbeReachable .available
      "gateway reachability is context, not proof that policy routing is correct")
  | some event, .highRtt => .support (probeEvidence event scope .supporting .gatewayProbeHighRtt
      .available "gateway probe degradation is context, not proof of routing misconfiguration")
  | some event, .timeout => .support (probeEvidence event scope .supporting .gatewayProbeTimeout
      .available "gateway probe degradation is context, not proof of routing misconfiguration")
  | _, _ => .empty

def upstreamWifiFindings (wifi : WifiFact) (scope : IncidentScope) : Findings :=
  match wifi.entry, wifi.meaning with
  | some entry, .associated =>
    .support (wifiEvidence entry scope .supporting .wifiAssociated
      "current Wi-Fi association supports a beyond-gateway interpretation") ++
    (if entry.signalCategory = .normal then .support (wifiEvidence entry scope .supporting
        .wifiSignalNormal "current Wi-Fi signal is outside weak-signal heuristic") else .empty)
  | _, _ => .empty

def upstreamFindings (wifi : WifiFact) (fallback : Observed ProbeObservation)
    (scope : IncidentScope) (h : RootCauseHypothesisObservation) : Findings :=
  ⟨h.supportingEvidence, [], []⟩ ++
  .lack (probeEvidence fallback scope .missing .socketEndpointSpecificProbeUnavailable
    .notImplemented "configured remote probe is not specific to the socket endpoint") ++
  .lack (probeEvidence fallback scope .missing .hopLevelEvidenceUnavailable
    .notImplemented "hop-level path evidence is not implemented") ++
  upstreamWifiFindings wifi scope

def upstreamHypothesis (policy : RootCausePolicy) (wifi : WifiFact)
    (fallback : Observed ProbeObservation) (scope : IncidentScope)
    (h : RootCauseHypothesisObservation) : RootCauseHypothesisObservation :=
  (h.derived .remoteOrUpstreamDegradation scope .medium
    "degradation_appears_beyond_local_gateway").addFindings policy
    (upstreamFindings wifi fallback scope h)

namespace RootCauseEngine
abbrev CandidateMap := OrderedMap CandidateKey RootCauseHypothesisObservation
abbrev CandidateTurn :=
  Turn CandidateKey RootCauseHypothesisObservation RootCauseHypothesisObservation

variable (engine : RootCauseEngine) (clock : ClockReadings)
def incidentCandidates : CandidateMap :=
  engine.activeIncidents.entries.foldl (fun candidates entry =>
    candidates.insert entry.2.candidateKey
      (addIncident engine.policy.toRootCausePolicy (candidates.find? entry.2.candidateKey)
        entry.2)) .empty

def pathFacts (socket : SocketId) : PathFacts :=
  let route := engine.routeEvents.find? socket
  let context := route.map Observed.observation
  { route := route
    uplink := engine.uplinkEvents.find? socket.netns
    gateway := engine.classifyProbe (clock .pathGateway socket) socket.netns .gateway context
    remote := engine.classifyProbe (clock .pathRemote socket) socket.netns .remote context
    wifi := engine.classifyWifi (clock .pathWifi socket) socket.netns context }

def routingHypothesis (socket : SocketId) (standIn : Observed SocketRouteContextObservation)
    (candidate : RootCauseHypothesisObservation) : RootCauseHypothesisObservation :=
  let policy := engine.policy.toRootCausePolicy
  let scope := IncidentScope.socket socket
  let h := candidate.addFindings policy (.lack (observationEvidence standIn.header scope .missing
    .policyRoutingStateUnavailable .notImplemented "policy routing rules are not modeled"))
  match engine.routeEvents.find? socket with
  | some route =>
    let gateway := engine.classifyProbe (clock .routingGateway socket) socket.netns .gateway
      route.observation
    { h.addFindings policy (routingFindings route gateway scope) with
      confidence := if routeUsable route then h.confidence.lowered else h.confidence }
  | none => h

def contextTurn (key : CandidateKey) (candidate : RootCauseHypothesisObservation) :
    Except RootCauseError CandidateTurn :=
  match key.type, key.scope with
  | .localRoutingProblem, .socket socket =>
    match syntheticRouteEvent socket with
    | .ok standIn => .ok ⟨engine.routingHypothesis clock socket standIn candidate, [], []⟩
    | .error text => .error (.invalidEvent text)
  | .localRoutingProblem, _ => .error .badVariantAccess
  | .networkPathDegradation, .socket socket =>
    match fallbacks socket with
    | .ok standIn => .ok (pathTurn engine.policy.toRootCausePolicy (engine.pathFacts clock socket)
        standIn key.scope candidate)
    | .error text => .error (.invalidEvent text)
  | _, _ => .ok ⟨candidate, [], []⟩

def uplinkHypothesis (netns : NetnsId) (candidate : RootCauseHypothesisObservation) :
    RootCauseHypothesisObservation :=
  match engine.uplinkEvents.find? netns with
  | some uplink =>
    if uplink.observation.selected ∧ usableValidity uplink.header.validity then
      { candidate.addFindings engine.policy.toRootCausePolicy
          (.contradict (observationEvidence uplink.header (.netns netns) .contradicting
            .usableUplinkAvailable .available "authoritative selected uplink restored")) with
        confidence := candidate.confidence.lowered }
    else candidate
  | none => candidate

def uplinkTurn (key : CandidateKey) (candidate : RootCauseHypothesisObservation) :
    Except RootCauseError CandidateTurn :=
  match key.type, key.scope with
  | .uplinkAvailabilityProblem, .netns netns =>
    .ok ⟨engine.uplinkHypothesis netns candidate, [], []⟩
  | .uplinkAvailabilityProblem, _ => .error .badVariantAccess
  | _, _ => .ok ⟨candidate, [], []⟩

def beyondGateway (socket : SocketId) : Bool :=
  match engine.routeEvents.find? socket, engine.uplinkEvents.find? socket.netns with
  | some route, some uplink =>
    let gateway := engine.classifyProbe (clock .upstreamGateway socket) socket.netns .gateway
      route.observation
    let remote := engine.classifyProbe (clock .upstreamRemote socket) socket.netns .remote
      route.observation
    routeUsable route && uplink.observation.selected && usableValidity uplink.header.validity &&
    gateway.meaning == .reachable && (remote.meaning == .highRtt || remote.meaning == .timeout)
  | _, _ => false

def upstreamWifi (socket : SocketId) : WifiFact :=
  engine.classifyWifi (clock .upstreamWifi socket) socket.netns
    ((engine.routeEvents.find? socket).map Observed.observation)

def upstreamBlocked (wifi : WifiFact) : Bool :=
  wifi.meaning == .notAssociated ||
  (wifi.meaning == .associated && wifi.entry.any (fun e => e.signalCategory == .veryWeak))

def upstreamTurn (key : CandidateKey) (candidate : RootCauseHypothesisObservation) :
    Except RootCauseError CandidateTurn :=
  match key.type, key.scope with
  | .networkPathDegradation, .socket socket =>
    if engine.beyondGateway clock socket then
      match syntheticProbeEvent socket.netns .remote with
      | .ok fallback =>
        let wifi := engine.upstreamWifi clock socket
        .ok ⟨candidate, [], if upstreamBlocked wifi then [] else
          [upstreamHypothesis engine.policy.toRootCausePolicy wifi fallback key.scope candidate]⟩
      | .error text => .error (.invalidEvent text)
    else .ok ⟨candidate, [], []⟩
  | _, _ => .ok ⟨candidate, [], []⟩

def emplaceCandidate (candidates : CandidateMap) (h : RootCauseHypothesisObservation) :
    CandidateMap :=
  candidates.emplace h.key h

def buildCandidatesLocked : Except RootCauseError CandidateMap := do
  let candidates := engine.incidentCandidates.mapValues upgrade
  let (candidates, insufficient) ← candidates.sweep (engine.contextTurn clock)
  let candidates := insufficient.foldl emplaceCandidate candidates
  let (candidates, _) ← candidates.sweep engine.uplinkTurn
  let (candidates, remote) ← candidates.sweep (engine.upstreamTurn clock)
  return remote.foldl emplaceCandidate candidates
end RootCauseEngine
end WeakNet
