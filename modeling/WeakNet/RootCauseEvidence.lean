import WeakNet.IncidentEngine
import WeakNet.Foundation.PinnedWindow
import WeakNet.Foundation.MapLoops

/-! The policy and the caches of `RootCauseEngine` and how cached events become evidence. The source
reads the clock anew each time it classifies something; a reading is therefore a function of the
place that asks and of the socket it asks for. -/

namespace WeakNet
open Foundation

namespace NetnsId
def code (n : NetnsId) : List ℕ := [n.device, n.inode]

theorem code_injective : Function.Injective code :=
  NetnsId.key_injective fun _ _ hnetns _ => hnetns

instance : LinearOrder NetnsId := LinearOrder.lift' code code_injective
end NetnsId

structure RootCausePolicy where
  maxRecentResolved : ℕ
  maxEvidencePerHypothesis : ℕ
  maxActiveHypotheses : ℕ
  /-- Seconds, as the two freshness bounds are `std::chrono::seconds`. -/
  probeFreshness : ℤ
  wifiFreshness : ℤ
  gatewayRttHighUs : ℕ
  remoteRttHighUs : ℕ
  wifiSignalWeakDbm : ℤ
  wifiSignalVeryWeakDbm : ℤ
  wifiSignalWeakRecoverDbm : ℤ
  wifiSignalVeryWeakRecoverDbm : ℤ
  wifiTxBitrateLowKbps : ℕ
deriving DecidableEq

namespace RootCausePolicy
def rejected (policy : RootCausePolicy) : Bool :=
  policy.maxRecentResolved == 0 || policy.maxEvidencePerHypothesis == 0 ||
  policy.maxActiveHypotheses == 0 || decide (policy.probeFreshness ≤ 0) ||
  decide (policy.wifiFreshness ≤ 0) || policy.gatewayRttHighUs == 0 ||
  policy.remoteRttHighUs == 0 ||
  decide (policy.wifiSignalWeakDbm ≤ policy.wifiSignalVeryWeakDbm) ||
  decide (policy.wifiSignalWeakRecoverDbm ≤ policy.wifiSignalWeakDbm) ||
  decide (policy.wifiSignalVeryWeakRecoverDbm ≤ policy.wifiSignalVeryWeakDbm) ||
  decide (policy.wifiSignalWeakRecoverDbm ≤ policy.wifiSignalVeryWeakRecoverDbm) ||
  policy.wifiTxBitrateLowKbps == 0

def standard : RootCausePolicy where
  maxRecentResolved := 256
  maxEvidencePerHypothesis := 8
  maxActiveHypotheses := 1024
  probeFreshness := 15
  wifiFreshness := 10
  gatewayRttHighUs := 75000
  remoteRttHighUs := 175000
  wifiSignalWeakDbm := -70
  wifiSignalVeryWeakDbm := -80
  wifiSignalWeakRecoverDbm := -67
  wifiSignalVeryWeakRecoverDbm := -77
  wifiTxBitrateLowKbps := 6000

/-- `max_active_hypotheses * 2`, computed in 64 bits. -/
def cacheBound (policy : RootCausePolicy) : ℕ := policy.maxActiveHypotheses * 2 % 2 ^ 64
end RootCausePolicy

structure AcceptedRootCausePolicy extends RootCausePolicy where
  accepted : toRootCausePolicy.rejected = false

def AcceptedRootCausePolicy.standard : AcceptedRootCausePolicy :=
  ⟨RootCausePolicy.standard, by decide⟩

def RootCauseType.code : RootCauseType → ℕ
  | .uplinkAvailabilityProblem => 0
  | .localRoutingProblem => 1
  | .networkPathDegradation => 2
  | .remoteOrUpstreamDegradation => 3
  | .localLinkSuspected => 4
  | .insufficientEvidence => 5

@[ext]
structure CandidateKey where
  type : RootCauseType
  scope : IncidentScope

namespace CandidateKey
def code (key : CandidateKey) : List ℕ := key.type.code :: key.scope.code

theorem code_injective : Function.Injective code := by
  have htype : Function.Injective RootCauseType.code := by
    intro a b h
    cases a <;> cases b <;> cases h <;> rfl
  exact IncidentScope.key_injective fun a b ht hscope => CandidateKey.ext (htype ht) hscope

instance : LinearOrder CandidateKey := LinearOrder.lift' code code_injective
end CandidateKey

/-- A namespace and an interface index; the observed name takes no part in comparisons. -/
@[ext]
structure WifiCacheKey where
  netns : NetnsId
  ifindex : ℕ

namespace WifiCacheKey
def code (key : WifiCacheKey) : List ℕ := [key.netns.device, key.netns.inode, key.ifindex]

theorem code_injective : Function.Injective code :=
  NetnsId.key_injective fun _ _ hnetns hrest => WifiCacheKey.ext hnetns (List.cons.inj hrest).1

instance : LinearOrder WifiCacheKey := LinearOrder.lift' code code_injective
end WifiCacheKey

namespace HypothesisConfidence
def rank : HypothesisConfidence → ℕ
  | low => 0
  | medium => 1
  | high => 2

/-- `std::max` on the enumeration. -/
def max (a b : HypothesisConfidence) : HypothesisConfidence := if a.rank < b.rank then b else a

/-- One step down, as far as `low`. -/
def lowered : HypothesisConfidence → HypothesisConfidence
  | high => medium
  | medium => low
  | low => low
end HypothesisConfidence

structure Observed (α : Type) where
  header : NetworkEventHeader
  observation : α
deriving DecidableEq

def Observed.make {α : Type} (wrap : α → NetworkEventPayload) (header : NetworkEventHeader)
    (observation : α) : Except String (Observed α) :=
  match NetworkEvent.make header (wrap observation) with
  | .ok _ => .ok ⟨header, observation⟩
  | .error text => .error text

structure ProbeCache where
  gateway : Option (Observed ProbeObservation)
  remote : Option (Observed ProbeObservation)

def ProbeCache.get (cache : ProbeCache) : ProbeTargetKind → Option (Observed ProbeObservation)
  | .gateway => cache.gateway
  | .remote => cache.remote

inductive WifiSignalCategory where
  | none | normal | weak | veryWeak
deriving DecidableEq

structure WifiCacheEntry where
  event : Observed WifiObservation
  signalCategory : WifiSignalCategory
deriving DecidableEq

structure RootCauseEngine where
  policy : AcceptedRootCausePolicy
  activeIncidents : OrderedMap ℕ IncidentObservation
  routeEvents : OrderedMap SocketId (Observed SocketRouteContextObservation)
  uplinkEvents : OrderedMap NetnsId (Observed UplinkObservation)
  probeEvents : OrderedMap NetnsId ProbeCache
  wifiEvents : OrderedMap WifiCacheKey WifiCacheEntry
  active : OrderedMap CandidateKey RootCauseHypothesisObservation
  resolved : List RootCauseHypothesisObservation
  nextOccurrence : ℕ

def usableValidity (validity : Validity) : Bool := validity == .valid || validity == .partly

/-- `==` on optional values; a value that is not a number differs from itself. -/
def sameValue : Option IncidentEvidenceValue → Option IncidentEvidenceValue → Bool
  | none, none => true
  | some a, some b => a.same b
  | _, _ => false

namespace RootCauseEvidence

/-- The equality `std::find` uses: every field, the times included. -/
def same (a b : RootCauseEvidence) : Bool :=
  a.incident == b.incident && a.sourceKind == b.sourceKind && a.source == b.source &&
  a.scope == b.scope && a.observedAt == b.observedAt && a.monotonicAt == b.monotonicAt &&
  a.role == b.role && a.kind == b.kind && sameValue a.value b.value && a.unit == b.unit &&
  a.validity == b.validity && a.capability == b.capability && a.provenance == b.provenance

def evidenceEquivalent (a b : RootCauseEvidence) : Bool :=
  a.incident == b.incident && a.sourceKind == b.sourceKind && a.source == b.source &&
  a.scope == b.scope && a.role == b.role && a.kind == b.kind && sameValue a.value b.value &&
  a.unit == b.unit && a.validity == b.validity && a.capability == b.capability &&
  a.provenance == b.provenance

def isPathIncident (evidence : RootCauseEvidence) : Bool :=
  evidence.kind == .highTcpRtt || evidence.kind == .elevatedTcpRetransmission
end RootCauseEvidence

def addEvidence (policy : RootCausePolicy) (destination : List RootCauseEvidence)
    (evidence : RootCauseEvidence) : List RootCauseEvidence :=
  if destination.any (fun held => held.same evidence) then destination
  else PinnedWindow.push policy.maxEvidencePerHypothesis destination evidence

def evidenceKind : IncidentType → RootCauseEvidenceKind
  | .uplinkUnavailable => .authoritativeNoUsableUplink
  | .routeUnavailable => .authoritativeRouteUnavailable
  | .socketRouteConflict => .socketRouteConflict
  | .highTcpRtt => .highTcpRtt
  | .elevatedTcpRetransmission => .elevatedTcpRetransmission

def incidentEvidence (incident : IncidentObservation) (role : RootCauseEvidenceRole)
    (kind : RootCauseEvidenceKind) : RootCauseEvidence where
  incident := some incident.id
  sourceKind := .incidentObservation
  source := .incidentEngine
  scope := incident.scope
  observedAt := incident.lastUpdatedAt
  monotonicAt := incident.lastUpdatedMonotonicAt
  role := role
  kind := kind
  value := incident.evidence.getLast?.bind IncidentEvidence.value
  unit := incident.evidence.getLast?.elim .none IncidentEvidence.unit
  validity := incident.validity
  capability := .available
  provenance := incident.condition

def observationEvidence (header : NetworkEventHeader) (scope : IncidentScope)
    (role : RootCauseEvidenceRole) (kind : RootCauseEvidenceKind)
    (capability : RootCauseEvidenceCapability) (provenance : String) : RootCauseEvidence where
  incident := none
  sourceKind := header.kind
  source := header.source
  scope := scope
  observedAt := header.observedAt
  monotonicAt := header.monotonicAt
  role := role
  kind := kind
  value := none
  unit := .none
  validity := header.validity
  capability := capability
  provenance := provenance

def probeEvidence (event : Observed ProbeObservation) (scope : IncidentScope)
    (role : RootCauseEvidenceRole) (kind : RootCauseEvidenceKind)
    (capability : RootCauseEvidenceCapability) (provenance : String) : RootCauseEvidence :=
  let evidence := observationEvidence event.header scope role kind capability provenance
  match event.observation.rttUs with
  | some rtt => { evidence with value := some (.integer rtt), unit := .microseconds }
  | none => evidence

def wifiEvidence (entry : WifiCacheEntry) (scope : IncidentScope) (role : RootCauseEvidenceRole)
    (kind : RootCauseEvidenceKind) (provenance : String) : RootCauseEvidence :=
  observationEvidence entry.event.header scope role kind .available provenance

/-- Where `buildCandidatesLocked` reads the clock. -/
inductive ReadingSite where
  | routingGateway | pathGateway | pathRemote | pathWifi
  | upstreamGateway | upstreamRemote | upstreamWifi
deriving DecidableEq

abbrev ClockReadings := ReadingSite → SocketId → MonotonicTime

/-- `observed_at > now || now - observed_at > freshness`. -/
def outdated (freshness : ℤ) (observedAt now : MonotonicTime) : Bool :=
  decide (now < observedAt) || decide (freshness * 10 ^ 9 < now - observedAt)

inductive ProbeMeaning where
  | missing | stale | reachable | highRtt | timeout
deriving DecidableEq

def ProbeMeaning.usableProbeContext : ProbeMeaning → Bool
  | reachable | highRtt | timeout => true
  | missing | stale => false

structure ProbeFact where
  event : Option (Observed ProbeObservation)
  meaning : ProbeMeaning
  capability : RootCauseEvidenceCapability
  provenance : String

def ProbeFact.missing (event : Option (Observed ProbeObservation)) (provenance : String) :
    ProbeFact :=
  ⟨event, .missing, .unavailable, provenance⟩

def sameGatewayTarget (target : ProbeTarget) (context : SocketRouteContextObservation) : Bool :=
  match target.kind, context.route, context.selectedInterface, target.interface with
  | .gateway, some route, some selected, some interface =>
    target.netns == context.netns && target.family == route.family &&
    route.gateway == some target.address && interface.same selected
  | _, _, _, _ => false

def rttHighUs (policy : RootCausePolicy) : ProbeTargetKind → ℕ
  | .gateway => policy.gatewayRttHighUs
  | .remote => policy.remoteRttHighUs

def probeStatusFact (policy : RootCausePolicy) (kind : ProbeTargetKind)
    (event : Observed ProbeObservation) : ProbeFact :=
  let observation := event.observation
  match observation.status with
  | .success =>
    if usableValidity observation.validity then
      { event := some event
        meaning := if observation.rttUs.any (fun rtt => rttHighUs policy kind ≤ rtt)
          then .highRtt else .reachable
        capability := .available
        provenance := match kind with
          | .gateway => "fresh gateway probe success"
          | .remote => "fresh configured remote probe success" }
    else .missing (some event) "successful probe has unusable validity"
  | .timeout =>
    if usableValidity observation.validity then
      { event := some event
        meaning := .timeout
        capability := .available
        provenance := match kind with
          | .gateway => "one fresh gateway probe timed out"
          | .remote => "one fresh configured remote probe timed out" }
    else .missing (some event) "probe timeout has unusable validity"
  | .transportUnavailable =>
    .missing (some event) "probe transport unavailable; target reachability is unknown"
  | .noTarget => .missing (some event) "no usable probe target; reachability is unknown"
  | .invalidReply => .missing (some event) "probe reply was invalid; reachability is unknown"
  | .error => .missing (some event) "probe error; reachability is unknown"
  | .unreachable =>
    .missing (some event) "explicit unreachable interpretation is not implemented by ActiveProbe"

inductive WifiMeaning where
  | missing | stale | mismatch | notApplicable | associated | notAssociated
deriving DecidableEq

structure WifiFact where
  entry : Option WifiCacheEntry
  meaning : WifiMeaning
  provenance : String

/-- `NL80211_IFTYPE_STATION`. -/
def nl80211IftypeStation : ℕ := 2

def wifiCapabilityFact (entry : WifiCacheEntry) : WifiFact :=
  let observation := entry.event.observation
  match observation.capability with
  | .notWifi => ⟨some entry, .notApplicable, "selected interface is not Wi-Fi"⟩
  | .available =>
    if observation.linkState = .associated then
      ⟨some entry, .associated, "fresh associated Wi-Fi observation"⟩
    else ⟨some entry, .missing, "available Wi-Fi observation lacks authoritative association"⟩
  | .notAssociated =>
    if observation.linkState = .notAssociated ∨ observation.linkState = .unknown then
      ⟨some entry, .notAssociated, "fresh authoritative Wi-Fi association failure"⟩
    else
      ⟨some entry, .missing, "Wi-Fi capability state is not authoritative association failure"⟩
  | .unsupported | .permissionDenied | .transportUnavailable | .error | .noTarget =>
    ⟨some entry, .missing, "Wi-Fi capability is unavailable; no link conclusion is made"⟩

def wifiEntryFact (policy : RootCausePolicy) (now : MonotonicTime)
    (route : Option SocketRouteContextObservation) (entry : WifiCacheEntry) : WifiFact :=
  let observation := entry.event.observation
  let routeGeneration := route.elim 0 SocketRouteContextObservation.topologyGeneration
  if outdated policy.wifiFreshness observation.monotonicAt now then
    ⟨some entry, .stale, "Wi-Fi observation is older than the freshness window"⟩
  else if routeGeneration ≠ 0 ∧ observation.interfaceGeneration ≠ 0 ∧
      routeGeneration ≠ observation.interfaceGeneration then
    ⟨some entry, .mismatch, "Wi-Fi observation belongs to an older interface generation"⟩
  else if !usableValidity observation.validity then
    ⟨some entry, .missing, "Wi-Fi observation has unusable validity"⟩
  else if observation.nl80211Iftype.any (fun type => type != nl80211IftypeStation) then
    ⟨some entry, .notApplicable, "current interface is not an nl80211 station interface"⟩
  else wifiCapabilityFact entry

namespace RootCauseEngine
def initial (policy : AcceptedRootCausePolicy) : RootCauseEngine where
  policy := policy
  activeIncidents := .empty
  routeEvents := .empty
  uplinkEvents := .empty
  probeEvents := .empty
  wifiEvents := .empty
  active := .empty
  resolved := []
  nextOccurrence := 1

def cachedProbe (engine : RootCauseEngine) (netns : NetnsId) (kind : ProbeTargetKind) :
    Option (Observed ProbeObservation) :=
  (engine.probeEvents.find? netns).bind (fun cache => cache.get kind)

def classifyProbe (engine : RootCauseEngine) (now : MonotonicTime) (netns : NetnsId)
    (kind : ProbeTargetKind) (route : Option SocketRouteContextObservation) : ProbeFact :=
  match engine.cachedProbe netns kind with
  | none => .missing none (match kind with
      | .gateway => "no gateway probe observation available"
      | .remote => "no remote probe observation available")
  | some event =>
    if kind = .gateway ∧ !route.any (sameGatewayTarget event.observation.target) then
      .missing (some event) "gateway probe target does not match the current modeled gateway"
    else if outdated engine.policy.probeFreshness event.observation.monotonicAt now then
      { event := some event
        meaning := .stale
        capability := .unavailable
        provenance := match kind with
          | .gateway => "gateway probe observation is older than the freshness window"
          | .remote => "remote probe observation is older than the freshness window" }
    else probeStatusFact engine.policy.toRootCausePolicy kind event

def currentInterface (engine : RootCauseEngine) (netns : NetnsId) :
    Option SocketRouteContextObservation → Option InterfaceId
  | some route =>
    if route.attributionStatus = .available ∧ route.topologyAuthoritative then
      route.selectedInterface
    else none
  | none =>
    match engine.uplinkEvents.find? netns with
    | some uplink =>
      if usableValidity uplink.header.validity ∧ uplink.observation.selected then
        uplink.header.interface
      else none
    | none => none

def classifyWifi (engine : RootCauseEngine) (now : MonotonicTime) (netns : NetnsId)
    (route : Option SocketRouteContextObservation) : WifiFact :=
  match engine.currentInterface netns route with
  | none => ⟨none, .missing, if route.isSome
      then "socket route does not provide an authoritative selected interface"
      else "selected uplink interface is unavailable"⟩
  | some selected =>
    match engine.wifiEvents.find? ⟨netns, selected.ifindex⟩ with
    | none => ⟨none, .missing, "no current-interface Wi-Fi observation available"⟩
    | some entry => wifiEntryFact engine.policy.toRootCausePolicy now route entry
end RootCauseEngine
end WeakNet
