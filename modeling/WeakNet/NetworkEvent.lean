import Mathlib.Data.List.Lex
import Mathlib.Data.Finset.Basic
import Mathlib.Data.Rat.Lemmas
import Mathlib.Algebra.Order.Ring.Rat

/-! The records of `network_event.hpp`. A `NetworkEvent` carries the fact that the constructor
accepted it. Times are nanosecond counts, texts are byte strings, `partly` stands for the
enumerators the source calls `Partial`, and reason masks are finite sets of their single-bit
enumerators. -/

namespace WeakNet
abbrev ByteString := List UInt8
abbrev RealtimeTime := ℤ
abbrev MonotonicTime := ℤ

def afInet : ℕ := 2
def afInet6 : ℕ := 10

/-- An IEEE double as comparisons see it: every comparison with `nan` is false. -/
inductive Double where
  | nan
  | negInf
  | finite (q : ℚ)
  | posInf
deriving DecidableEq

namespace Double
def le : Double → Double → Bool
  | nan, _ => false
  | _, nan => false
  | negInf, _ => true
  | _, posInf => true
  | finite a, finite b => decide (a ≤ b)
  | _, _ => false

def lt (a b : Double) : Bool := le a b && !le b a

def same (a b : Double) : Bool := le a b && le b a
end Double

@[ext]
structure Address where
  bytes : List UInt8
  length_eq : bytes.length = 16
deriving DecidableEq

namespace Address
def ofBytes (size : ℕ) (data : List UInt8) : Address :=
  ⟨(data.take size ++ List.replicate 16 0).take 16, by simp⟩

def zero : Address := ⟨List.replicate 16 0, by simp⟩

def code (a : Address) : List ℕ := a.bytes.map UInt8.toNat

theorem code_injective : Function.Injective code := by
  intro a b h
  exact Address.ext (List.map_injective_iff.mpr (fun _ _ => UInt8.toNat_inj.mp) h)
end Address

@[ext]
structure NetnsId where
  device : ℕ
  inode : ℕ
deriving DecidableEq

theorem NetnsId.key_injective {α : Type*} {netns : α → NetnsId} {rest : α → List ℕ}
    (h : ∀ a b, netns a = netns b → rest a = rest b → a = b) :
    Function.Injective fun a => (netns a).device :: (netns a).inode :: rest a := by
  intro a b hcode
  obtain ⟨hdevice, hcode⟩ := List.cons.inj hcode
  obtain ⟨hinode, hrest⟩ := List.cons.inj hcode
  exact h a b (NetnsId.ext hdevice hinode) hrest

/-- The observed name is metadata; `same` compares the identity alone. -/
structure InterfaceId where
  ifindex : ℕ
  observedName : ByteString
deriving DecidableEq

def InterfaceId.same (a b : InterfaceId) : Bool := a.ifindex == b.ifindex

inductive SocketProtocol where
  | tcp
deriving DecidableEq

@[ext]
structure SocketEndpoint where
  family : ℕ
  address : Address
  port : ℕ
deriving DecidableEq

structure SocketTuple where
  netns : NetnsId
  protocol : SocketProtocol
  family : ℕ
  localEnd : SocketEndpoint
  remoteEnd : SocketEndpoint

@[ext]
structure SocketId where
  netns : NetnsId
  cookie : Option ℕ
  generation : ℕ

namespace SocketId
def code (id : SocketId) : List ℕ :=
  [id.netns.device, id.netns.inode, id.cookie.elim 0 (· + 1), id.generation]

theorem code_injective : Function.Injective code := by
  refine NetnsId.key_injective fun a b hnetns hrest => ?_
  obtain ⟨hcookie, hgeneration⟩ := List.cons.inj hrest
  refine SocketId.ext hnetns ?_ (List.cons.inj hgeneration).1
  cases ha : a.cookie <;> cases hb : b.cookie <;> simp_all

instance : LinearOrder SocketId := LinearOrder.lift' code code_injective
end SocketId

namespace SocketEndpoint
def code (e : SocketEndpoint) : List (List ℕ) := [[e.family], e.address.code, [e.port]]

theorem code_injective : Function.Injective code := by
  intro e e' h
  simp only [code, List.cons.injEq, and_true] at h
  exact SocketEndpoint.ext h.1 (Address.code_injective h.2.1) h.2.2
end SocketEndpoint

namespace SocketTuple
def code (t : SocketTuple) : List (List (List ℕ)) :=
  [[[t.netns.device]], [[t.netns.inode]], [[6]], [[t.family]], t.localEnd.code, t.remoteEnd.code]

theorem code_injective : Function.Injective code := by
  intro t t' h
  obtain ⟨⟨_, _⟩, p, _, _, _⟩ := t
  obtain ⟨⟨_, _⟩, p', _, _, _⟩ := t'
  cases p
  cases p'
  simp only [code, List.cons.injEq, and_true, true_and] at h
  obtain ⟨rfl, rfl, rfl, hl, hr⟩ := h
  rw [SocketEndpoint.code_injective hl, SocketEndpoint.code_injective hr]

instance : LinearOrder SocketTuple := LinearOrder.lift' code code_injective
end SocketTuple

inductive Validity where
  | valid | unavailable | stale | partly | reset
deriving DecidableEq

inductive EventKind where
  | linkObservation | addressObservation | routeObservation | interfaceObservation
  | uplinkObservation | probeRttMetric | tcpLossMetric | trafficMetric | wifiRssiMetric
  | collectorHealth | socketObservation | tcpInfoObservation | tcpIntervalMetric
  | socketRouteObservation | incidentObservation | rootCauseHypothesisObservation
  | probeObservation | wifiObservation
deriving DecidableEq

inductive EventSource where
  | netlinkCollector | v1InterfaceSnapshot | v1UplinkMonitor | v1RttMonitor | v1TcpLossMonitor
  | v1TrafficMonitor | v1WifiMonitor | runtime | socketTracker | incidentEngine
  | rootCauseEngine | activeProbe | wifiCollector
deriving DecidableEq

inductive SocketLifecycleState where
  | active | closed
deriving DecidableEq

/-- Gauges and cumulative counters of `tcp_info`, each present when covered by the payload. -/
structure TcpInfoRaw where
  rttUs : Option ℕ
  rttvarUs : Option ℕ
  sndCwnd : Option ℕ
  sndSsthresh : Option ℕ
  unacked : Option ℕ
  reordering : Option ℕ
  rcvSpace : Option ℕ
  bytesAcked : Option ℕ
  bytesReceived : Option ℕ
  segsOut : Option ℕ
  segsIn : Option ℕ
  dataSegsOut : Option ℕ
  dataSegsIn : Option ℕ
  totalRetrans : Option ℕ
  lost : Option ℕ
  retrans : Option ℕ
  delivered : Option ℕ
  deliveredCe : Option ℕ
deriving DecidableEq

structure SocketObservation where
  id : SocketId
  netns : NetnsId
  tuple : SocketTuple
  observedAt : RealtimeTime
  monotonicAt : MonotonicTime
  source : EventSource
  validity : Validity
  lifecycle : SocketLifecycleState
  present : Bool
  tcpState : ℕ
  diagIfindex : Option ℕ
  tcpInfo : Option TcpInfoRaw
  tcpInfoMalformed : Bool
deriving DecidableEq

structure TcpInfoObservation where
  id : SocketId
  netns : NetnsId
  tuple : SocketTuple
  tcpState : ℕ
  raw : Option TcpInfoRaw
  observedAt : RealtimeTime
  monotonicAt : MonotonicTime
  validity : Validity
  malformed : Bool
deriving DecidableEq

inductive TcpMetricUnavailableReason where
  | noPreviousSample | identityChanged | generationChanged | fieldUnavailable
  | counterReset | nonIncreasingTimestamp | zeroDenominator | partialObservation
deriving DecidableEq

structure TcpIntervalMetrics where
  id : SocketId
  intervalStart : MonotonicTime
  intervalEnd : MonotonicTime
  elapsedSeconds : Double
  rttUs : Option ℕ
  rttvarUs : Option ℕ
  sndCwnd : Option ℕ
  sndSsthresh : Option ℕ
  txAckedBytesPerSec : Option Double
  rxBytesPerSec : Option Double
  segsOutPerSec : Option Double
  segsInPerSec : Option Double
  dataSegsOutPerSec : Option Double
  dataSegsInPerSec : Option Double
  deltaTotalRetrans : Option ℕ
  deltaDataSegsOut : Option ℕ
  retransmissionSegmentRatio : Option Double
  validity : Validity
  unavailableReason : Option TcpMetricUnavailableReason
deriving DecidableEq

inductive RouteAttributionStatus where
  | available | partly | ambiguous | unavailable
deriving DecidableEq

inductive RouteAttributionReason where
  | exactModeledMatch | multipathWithoutFlowHash | diagIfindexAgrees | diagIfindexConflicts
  | diagIfindexUnavailable | topologyNonAuthoritative | topologyPartial | noModeledRoute
  | policyRoutingNotModeled | ambiguousCandidate | gatewayEvidence | onLinkEvidence
  | localRoute | localAddressAgrees | localAddressConflicts | topologyDegraded
  | missingOutputInterface
deriving DecidableEq

inductive SelectedUplinkRelationship where
  | matchesSelectedUplink | differentFromSelectedUplink | possibleSelectedUplink
  | nonUplinkLocal | unknown
deriving DecidableEq

structure MatchedRouteSummary where
  identity : String
  family : ℕ
  prefixLength : ℕ
  table : ℕ
  priority : ℕ
  type : ℕ
  gateway : Option Address
  preferredSource : Option Address
  nexthopIfindices : List ℕ
  nexthopGateways : List Address
  onLink : Bool
  multipath : Bool
deriving DecidableEq

structure SocketRouteContextObservation where
  socketId : SocketId
  netns : NetnsId
  destination : SocketEndpoint
  route : Option MatchedRouteSummary
  possibleInterfaces : List InterfaceId
  selectedInterface : Option InterfaceId
  uplinkRelationship : SelectedUplinkRelationship
  diagIfindex : Option ℕ
  attributionStatus : RouteAttributionStatus
  reasons : Finset RouteAttributionReason
  topologyGeneration : ℕ
  topologyAuthoritative : Bool
deriving DecidableEq

inductive IncidentType where
  | highTcpRtt | elevatedTcpRetransmission | routeUnavailable | uplinkUnavailable
  | socketRouteConflict
deriving DecidableEq

inductive IncidentState where
  | pending | active | resolved
deriving DecidableEq

inductive IncidentSeverity where
  | info | warning | critical
deriving DecidableEq

inductive IncidentEvidenceUnit where
  | none | microseconds | ratio | count
deriving DecidableEq

inductive IncidentEvidenceCompleteness where
  | complete | partly | unavailable
deriving DecidableEq

inductive IncidentConfidence where
  | unknown | partly | high
deriving DecidableEq

/-- Typed identity of what an incident is about; an interface counts by its index alone. -/
inductive IncidentScope where
  | socket (id : SocketId)
  | interface (ifindex : ℕ)
  | netns (id : NetnsId)
deriving DecidableEq

inductive IncidentEvidenceValue where
  | integer (n : ℕ)
  | real (x : Double)
deriving DecidableEq

def IncidentEvidenceValue.same : IncidentEvidenceValue → IncidentEvidenceValue → Bool
  | .integer a, .integer b => a == b
  | .real a, .real b => a.same b
  | _, _ => false

structure IncidentEvidence where
  sourceKind : EventKind
  source : EventSource
  scope : IncidentScope
  observedAt : RealtimeTime
  monotonicAt : MonotonicTime
  value : Option IncidentEvidenceValue
  unit : IncidentEvidenceUnit
  validity : Validity
  condition : String
deriving DecidableEq

structure IncidentObservation where
  id : ℕ
  type : IncidentType
  scope : IncidentScope
  state : IncidentState
  severity : IncidentSeverity
  confidence : IncidentConfidence
  openedAt : RealtimeTime
  openedMonotonicAt : MonotonicTime
  lastUpdatedAt : RealtimeTime
  lastUpdatedMonotonicAt : MonotonicTime
  resolvedAt : Option RealtimeTime
  resolvedMonotonicAt : Option MonotonicTime
  evidence : List IncidentEvidence
  condition : String
  resolutionCondition : Option String
  validity : Validity
  evidenceCompleteness : IncidentEvidenceCompleteness
  source : EventSource
deriving DecidableEq

inductive ProbeTargetKind where
  | gateway | remote
deriving DecidableEq

inductive ProbeStatus where
  | success | timeout | unreachable | transportUnavailable | noTarget | invalidReply | error
deriving DecidableEq

structure ProbeTarget where
  kind : ProbeTargetKind
  netns : NetnsId
  family : ℕ
  address : Address
  interface : Option InterfaceId
  generation : ℕ
  provenance : String
deriving DecidableEq

structure UplinkObservation where
  interfaceName : ByteString
  methodFlags : ℕ
  selected : Bool
  evidence : String
deriving DecidableEq

structure LinkObservation where
  ifindex : ℕ
  interfaceName : ByteString
  present : Bool
  linkUp : Bool
  carrierUp : Bool
deriving DecidableEq

structure AddressObservation where
  ifindex : ℕ
  family : ℕ
  prefixLength : ℕ
  address : String
  present : Bool
deriving DecidableEq

structure RouteObservation where
  family : ℕ
  prefixLength : ℕ
  table : ℕ
  priority : ℕ
  outputIfindex : ℕ
  present : Bool
  multipath : Bool
  onLink : Bool
deriving DecidableEq

inductive RootCauseType where
  | uplinkAvailabilityProblem | localRoutingProblem | networkPathDegradation
  | remoteOrUpstreamDegradation | localLinkSuspected | insufficientEvidence
deriving DecidableEq

structure RootCauseHypothesisId where
  type : RootCauseType
  scope : IncidentScope
  occurrence : ℕ
deriving DecidableEq

inductive HypothesisState where
  | active | resolved
deriving DecidableEq

inductive HypothesisConfidence where
  | low | medium | high
deriving DecidableEq

inductive RootCauseEvidenceRole where
  | supporting | contradicting | missing
deriving DecidableEq

inductive RootCauseEvidenceKind where
  | activeIncident | authoritativeNoUsableUplink | authoritativeRouteUnavailable
  | socketRouteConflict | modeledRouteAvailable | usableUplinkAvailable | highTcpRtt
  | elevatedTcpRetransmission | gatewayProbeUnavailable | remoteProbeUnavailable
  | gatewayLatencyUnavailable | wifiLinkQualityUnavailable | activeRemoteProbeUnavailable
  | policyRoutingStateUnavailable | ipRuleNotModeled | vrfStateUnavailable
  | topologyUnavailable | attributionAmbiguous | gatewayProbeReachable | gatewayProbeHighRtt
  | gatewayProbeTimeout | remoteProbeReachable | remoteProbeHighRtt | remoteProbeTimeout
  | probeEvidenceStale | socketEndpointSpecificProbeUnavailable | hopLevelEvidenceUnavailable
  | gatewayDeviceHealthUnavailable | wifiAssociated | wifiNotAssociated | wifiSignalNormal
  | wifiSignalWeak | wifiSignalVeryWeak | wifiTxBitrateLow | wifiEvidenceUnavailable
  | wifiEvidenceStale | wifiInterfaceMismatch
deriving DecidableEq

inductive RootCauseEvidenceCapability where
  | available | unavailable | notImplemented
deriving DecidableEq

structure RootCauseEvidence where
  incident : Option ℕ
  sourceKind : EventKind
  source : EventSource
  scope : IncidentScope
  observedAt : RealtimeTime
  monotonicAt : MonotonicTime
  role : RootCauseEvidenceRole
  kind : RootCauseEvidenceKind
  value : Option IncidentEvidenceValue
  unit : IncidentEvidenceUnit
  validity : Validity
  capability : RootCauseEvidenceCapability
  provenance : String
deriving DecidableEq

structure RootCauseHypothesisObservation where
  id : RootCauseHypothesisId
  type : RootCauseType
  scope : IncidentScope
  state : HypothesisState
  confidence : HypothesisConfidence
  openedAt : RealtimeTime
  lastUpdatedAt : RealtimeTime
  resolvedAt : Option RealtimeTime
  supportingEvidence : List RootCauseEvidence
  contradictingEvidence : List RootCauseEvidence
  missingEvidence : List RootCauseEvidence
  reasonCode : String
  provenance : EventSource
deriving DecidableEq

structure ProbeObservation where
  target : ProbeTarget
  netns : NetnsId
  observedAt : RealtimeTime
  monotonicAt : MonotonicTime
  sequence : ℕ
  status : ProbeStatus
  rttUs : Option ℕ
  validity : Validity
  source : EventSource
  transport : String
  failureReason : String
deriving DecidableEq

structure InterfaceObservation where
  interfaceName : ByteString
  present : Bool
  linkUp : Bool
deriving DecidableEq

structure TcpLossObservation where
  ratePercent : Option Double
  sentDelta : ℕ
  retransmitDelta : ℕ
  v1Level : String
deriving DecidableEq

structure TrafficObservation where
  bytesPerSecond : Option ℕ
  packetsPerSecond : Option ℕ
  activeFlows : Option ℕ
deriving DecidableEq

inductive WifiLinkState where
  | unknown | notWifi | notAssociated | associated
deriving DecidableEq

inductive WifiCapability where
  | available | notWifi | notAssociated | unsupported | permissionDenied
  | transportUnavailable | error | noTarget
deriving DecidableEq

structure WifiObservation where
  netns : NetnsId
  interface : Option InterfaceId
  interfaceGeneration : ℕ
  linkState : WifiLinkState
  capability : WifiCapability
  nl80211Iftype : Option ℕ
  bssid : Option (List UInt8)
  ssid : Option ByteString
  frequencyMhz : Option ℕ
  signalDbm : Option ℤ
  signalAvgDbm : Option ℤ
  txBitrateKbps : Option ℕ
  rxBitrateKbps : Option ℕ
  txRetries : Option ℕ
  txFailed : Option ℕ
  rxPackets : Option ℕ
  txPackets : Option ℕ
  rxBytes : Option ℕ
  txBytes : Option ℕ
  observedAt : RealtimeTime
  monotonicAt : MonotonicTime
  source : EventSource
  validity : Validity
  status : String
deriving DecidableEq

inductive CollectorState where
  | starting | running | disabled | degraded | failed | stopped
deriving DecidableEq

structure CollectorHealthObservation where
  component : String
  state : CollectorState
deriving DecidableEq

inductive NetworkEventPayload where
  | link (o : LinkObservation)
  | address (o : AddressObservation)
  | route (o : RouteObservation)
  | interface (o : InterfaceObservation)
  | uplink (o : UplinkObservation)
  | probeRtt (milliseconds : Option Double)
  | tcpLoss (o : TcpLossObservation)
  | traffic (o : TrafficObservation)
  | wifiRssi (dbm : Option ℤ)
  | collectorHealth (o : CollectorHealthObservation)
  | socket (o : SocketObservation)
  | tcpInfo (o : TcpInfoObservation)
  | tcpInterval (o : TcpIntervalMetrics)
  | socketRoute (o : SocketRouteContextObservation)
  | incident (o : IncidentObservation)
  | hypothesis (o : RootCauseHypothesisObservation)
  | probe (o : ProbeObservation)
  | wifi (o : WifiObservation)
deriving DecidableEq

inductive StatusCode where
  | unavailable | ambiguousV1Scope | collectorDegraded | counterReset | invalidSchema
  | invalidPayload | policyEvidence
deriving DecidableEq

structure Status where
  code : StatusCode
  detail : String
deriving DecidableEq

def networkEventSchemaVersion : ℕ := 1

structure NetworkEventHeader where
  schemaVersion : ℕ
  eventId : ℕ
  sequence : ℕ
  kind : EventKind
  source : EventSource
  observedAt : RealtimeTime
  monotonicAt : MonotonicTime
  netns : NetnsId
  interface : Option InterfaceId
  socket : Option SocketId
  validity : Validity
  status : Option Status
deriving DecidableEq

def kindFor : NetworkEventPayload → EventKind
  | .link _ => .linkObservation
  | .address _ => .addressObservation
  | .route _ => .routeObservation
  | .interface _ => .interfaceObservation
  | .uplink _ => .uplinkObservation
  | .probeRtt _ => .probeRttMetric
  | .tcpLoss _ => .tcpLossMetric
  | .traffic _ => .trafficMetric
  | .wifiRssi _ => .wifiRssiMetric
  | .collectorHealth _ => .collectorHealth
  | .socket _ => .socketObservation
  | .tcpInfo _ => .tcpInfoObservation
  | .tcpInterval _ => .tcpIntervalMetric
  | .socketRoute _ => .socketRouteObservation
  | .incident _ => .incidentObservation
  | .hypothesis _ => .rootCauseHypothesisObservation
  | .probe _ => .probeObservation
  | .wifi _ => .wifiObservation

def scopeMatches (netns : NetnsId) : IncidentScope → Bool
  | .socket id => id.netns == netns
  | .interface _ => true
  | .netns id => id == netns

def interfacesDiffer : Option InterfaceId → Option InterfaceId → Bool
  | none, none => false
  | some a, some b => !a.same b
  | _, _ => true

def payloadError (header : NetworkEventHeader) : NetworkEventPayload → Option String
  | .socket o =>
    if o.netns ≠ header.netns ∨ o.id.netns ≠ header.netns ∨ o.tuple.netns ≠ header.netns ∨
        (∃ s ∈ header.socket, s ≠ o.id) then
      some "SocketObservation namespace/identity mismatch"
    else none
  | .tcpInfo o =>
    if o.netns ≠ header.netns ∨ o.id.netns ≠ header.netns ∨ o.tuple.netns ≠ header.netns ∨
        (∃ s ∈ header.socket, s ≠ o.id) then
      some "TcpInfoObservation namespace/identity mismatch"
    else none
  | .tcpInterval o =>
    if o.id.netns ≠ header.netns ∨ (∃ s ∈ header.socket, s ≠ o.id) then
      some "TcpIntervalMetrics namespace/identity mismatch"
    else none
  | .socketRoute o =>
    if o.netns ≠ header.netns ∨ o.socketId.netns ≠ header.netns ∨
        (∃ s ∈ header.socket, s ≠ o.socketId) then
      some "SocketRouteContextObservation namespace/identity mismatch"
    else none
  | .incident o =>
    if scopeMatches header.netns o.scope then none
    else some "IncidentObservation scope namespace mismatch"
  | .hypothesis o =>
    if scopeMatches header.netns o.scope then none
    else some "RootCauseHypothesis scope namespace mismatch"
  | .probe o =>
    if o.netns ≠ header.netns ∨ o.target.netns ≠ header.netns ∨
        (∃ i ∈ header.interface, ∃ j ∈ o.target.interface, i.same j = false) then
      some "ProbeObservation namespace/identity mismatch"
    else none
  | .wifi o =>
    if o.netns ≠ header.netns ∨ (∃ i ∈ o.interface, i.ifindex = 0) ∨
        interfacesDiffer header.interface o.interface ∨
        header.source ≠ .wifiCollector ∨ o.source ≠ .wifiCollector then
      some "WifiObservation namespace/identity mismatch"
    else none
  | _ => none

def constructorError (header : NetworkEventHeader) (payload : NetworkEventPayload) :
    Option String :=
  if header.schemaVersion ≠ networkEventSchemaVersion then
    some "unsupported NetworkEvent schema version"
  else if header.eventId = 0 then some "NetworkEvent event_id must be nonzero"
  else if header.netns.inode = 0 then some "NetworkEvent requires a network namespace identity"
  else if ∃ s ∈ header.socket, s.netns ≠ header.netns then
    some "NetworkEvent socket identity namespace mismatch"
  else if ∃ i ∈ header.interface, i.ifindex = 0 then
    some "NetworkEvent interface ifindex must be nonzero"
  else match payloadError header payload with
    | some text => some text
    | none =>
      if header.kind ≠ kindFor payload then
        some "NetworkEvent header kind does not match payload"
      else none

structure NetworkEvent where
  header : NetworkEventHeader
  payload : NetworkEventPayload
  accepted : constructorError header payload = none

def NetworkEvent.make (header : NetworkEventHeader) (payload : NetworkEventPayload) :
    Except String NetworkEvent :=
  if h : constructorError header payload = none then .ok ⟨header, payload, h⟩
  else .error ((constructorError header payload).getD "")

theorem NetworkEvent.make_ok {header : NetworkEventHeader} {payload : NetworkEventPayload}
    {event : NetworkEvent} (h : NetworkEvent.make header payload = .ok event) :
    (event.header, event.payload) = (header, payload) := by
  rw [NetworkEvent.make] at h
  split_ifs at h
  rw [← Except.ok.inj h]

section
variable (event : NetworkEvent)
theorem NetworkEvent.payloadError_eq_none :
    payloadError event.header event.payload = none := by
  have h := event.accepted
  rw [constructorError] at h
  cases hp : payloadError event.header event.payload with
  | some _ =>
    simp only [hp] at h
    split_ifs at h
  | none => rfl

theorem NetworkEvent.kind_eq :
    event.header.kind = kindFor event.payload := by
  have h := event.accepted
  rw [constructorError, event.payloadError_eq_none] at h
  by_contra hk
  simp only [ne_eq, hk, not_false_eq_true, ↓reduceIte] at h
  split_ifs at h

theorem NetworkEvent.netns_inode : event.header.netns.inode ≠ 0 := by
  have h := event.accepted
  rw [constructorError] at h
  intro hzero
  simp only [hzero, ↓reduceIte] at h
  split_ifs at h
end
end WeakNet
