import WeakNet.DiagnosisSnapshot
import WeakNet.EventBus

/-! `DbusService::handleV2GetDiagnosis` and its encoders. Every text goes through `c_str`, so it
ends at the first NUL. libdbus refuses a text that is not UTF-8, and then there is no reply; only
the names of interfaces are arbitrary bytes. -/

namespace WeakNet.DbusService
inductive Variant where
  | string (text : String)
  | uint64 (n : ℕ)
  | double (x : Double)
  | strings (texts : List String)
  | dicts (items : List (List (String × Variant)))

abbrev Dict := List (String × Variant)

def cText (text : String) : String := String.ofList (text.toList.takeWhile fun c => c.toNat != 0)

def nameText (name : ByteString) : Option String :=
  String.fromUTF8? ⟨(name.takeWhile (· != 0)).toArray⟩

def milliseconds (t : RealtimeTime) : ℕ := (t.tdiv 1000000 % 2 ^ 64).toNat

def overallDiagnosticStateName : OverallDiagnosticState → String
  | .healthy => "Healthy"
  | .degraded => "Degraded"
  | .unknown => "Unknown"

def incidentTypeName : IncidentType → String
  | .highTcpRtt => "HighTcpRtt"
  | .elevatedTcpRetransmission => "ElevatedTcpRetransmission"
  | .routeUnavailable => "RouteUnavailable"
  | .uplinkUnavailable => "UplinkUnavailable"
  | .socketRouteConflict => "SocketRouteConflict"

def rootCauseTypeName : RootCauseType → String
  | .uplinkAvailabilityProblem => "UplinkAvailabilityProblem"
  | .localRoutingProblem => "LocalRoutingProblem"
  | .networkPathDegradation => "NetworkPathDegradation"
  | .remoteOrUpstreamDegradation => "RemoteOrUpstreamDegradation"
  | .localLinkSuspected => "LocalLinkSuspected"
  | .insufficientEvidence => "InsufficientEvidence"

def roleName : RootCauseEvidenceRole → String
  | .supporting => "Supporting"
  | .contradicting => "Contradicting"
  | .missing => "Missing"

def rootCauseEvidenceKindName : RootCauseEvidenceKind → String
  | .activeIncident => "ActiveIncident"
  | .authoritativeNoUsableUplink => "AuthoritativeNoUsableUplink"
  | .authoritativeRouteUnavailable => "AuthoritativeRouteUnavailable"
  | .socketRouteConflict => "SocketRouteConflict"
  | .modeledRouteAvailable => "ModeledRouteAvailable"
  | .usableUplinkAvailable => "UsableUplinkAvailable"
  | .highTcpRtt => "HighTcpRtt"
  | .elevatedTcpRetransmission => "ElevatedTcpRetransmission"
  | .gatewayProbeUnavailable => "GatewayProbeUnavailable"
  | .remoteProbeUnavailable => "RemoteProbeUnavailable"
  | .gatewayLatencyUnavailable => "GatewayLatencyUnavailable"
  | .wifiLinkQualityUnavailable => "WifiLinkQualityUnavailable"
  | .activeRemoteProbeUnavailable => "ActiveRemoteProbeUnavailable"
  | .policyRoutingStateUnavailable => "PolicyRoutingStateUnavailable"
  | .ipRuleNotModeled => "IpRuleNotModeled"
  | .vrfStateUnavailable => "VrfStateUnavailable"
  | .topologyUnavailable => "TopologyUnavailable"
  | .attributionAmbiguous => "AttributionAmbiguous"
  | .gatewayProbeReachable => "GatewayProbeReachable"
  | .gatewayProbeHighRtt => "GatewayProbeHighRtt"
  | .gatewayProbeTimeout => "GatewayProbeTimeout"
  | .remoteProbeReachable => "RemoteProbeReachable"
  | .remoteProbeHighRtt => "RemoteProbeHighRtt"
  | .remoteProbeTimeout => "RemoteProbeTimeout"
  | .probeEvidenceStale => "ProbeEvidenceStale"
  | .socketEndpointSpecificProbeUnavailable => "SocketEndpointSpecificProbeUnavailable"
  | .hopLevelEvidenceUnavailable => "HopLevelEvidenceUnavailable"
  | .gatewayDeviceHealthUnavailable => "GatewayDeviceHealthUnavailable"
  | .wifiAssociated => "WifiAssociated"
  | .wifiNotAssociated => "WifiNotAssociated"
  | .wifiSignalNormal => "WifiSignalNormal"
  | .wifiSignalWeak => "WifiSignalWeak"
  | .wifiSignalVeryWeak => "WifiSignalVeryWeak"
  | .wifiTxBitrateLow => "WifiTxBitrateLow"
  | .wifiEvidenceUnavailable => "WifiEvidenceUnavailable"
  | .wifiEvidenceStale => "WifiEvidenceStale"
  | .wifiInterfaceMismatch => "WifiInterfaceMismatch"

def netnsName (id : NetnsId) : String := "netns=" ++ toString id.device ++ ":" ++ toString id.inode

def socketName (id : SocketId) : String :=
  "socket " ++ netnsName id.netns ++ " generation=" ++ toString id.generation ++
    id.cookie.elim "" fun cookie => " cookie=" ++ toString cookie

def scopeName : IncidentScope → String
  | .socket id => socketName id
  | .interface ifindex => "interface netns-ifindex=" ++ toString ifindex
  | .netns id => netnsName id

def rootCauseScopeName (observedName : ByteString) : IncidentScope → Option String
  | .socket id => some (socketName id)
  | .interface ifindex =>
    if observedName = [] then some ("interface ifindex=" ++ toString ifindex)
    else do
      let name ← nameText observedName
      return "interface ifindex=" ++ toString ifindex ++ " name=" ++ name
  | .netns id => some (netnsName id)

def evidenceSummary (evidence : List RootCauseEvidence) : String :=
  let result := evidence.foldl (fun result item =>
    (if result = "" then result else result ++ "; ") ++ rootCauseEvidenceKindName item.kind ++
      if item.provenance = "" then "" else " (" ++ item.provenance ++ ")") ""
  if result = "" then "none" else result

def valueEntry : IncidentEvidenceValue → String × Variant
  | .integer n => ("value_uint64", .uint64 n)
  | .real x => ("value_double", .double x)

def incidentEvidenceDict (item : IncidentEvidence) : Dict :=
  [("source_kind", .string (toString item.sourceKind.index.val)),
    ("source", .string (toString item.source.index.val)),
    ("condition", .string (cText item.condition)),
    ("timestamp_ms", .uint64 (milliseconds item.observedAt))] ++
    (item.value.map valueEntry).toList

def evidenceDict (item : RootCauseEvidence) : Dict :=
  [("role", .string (roleName item.role)),
    ("kind", .string (rootCauseEvidenceKindName item.kind)),
    ("scope", .string (scopeName item.scope)),
    ("source", .string (toString item.source.index.val)),
    ("timestamp_ms", .uint64 (milliseconds item.observedAt)),
    ("capability", .string (toString item.capability.ctorIdx))] ++
    (item.incident.map fun id => ("incident_id", .uint64 id)).toList

def incidentDict (incident : IncidentObservation) : Dict :=
  [("id", .uint64 incident.id), ("type", .string (incidentTypeName incident.type)),
    ("state", .string "Active"), ("scope", .string (scopeName incident.scope)),
    ("opened_at_ms", .uint64 (milliseconds incident.openedAt)),
    ("last_updated_at_ms", .uint64 (milliseconds incident.lastUpdatedAt)),
    ("evidence", .dicts (incident.evidence.map incidentEvidenceDict))]

def hypothesisDict (observedName : ByteString) (hypothesis : RootCauseHypothesisObservation) :
    Option Dict := do
  let scope ← rootCauseScopeName observedName hypothesis.scope
  return [("occurrence", .uint64 hypothesis.id.occurrence),
    ("type", .string (rootCauseTypeName hypothesis.type)), ("state", .string "Active"),
    ("confidence", .string (toString hypothesis.confidence.ctorIdx)), ("scope", .string scope),
    ("reason", .string (cText hypothesis.reasonCode)),
    ("supporting_summary", .string (cText (evidenceSummary hypothesis.supportingEvidence))),
    ("contradicting_summary", .string (cText (evidenceSummary hypothesis.contradictingEvidence))),
    ("missing_summary", .string (cText (evidenceSummary hypothesis.missingEvidence))),
    ("supporting_evidence", .dicts (hypothesis.supportingEvidence.map evidenceDict)),
    ("contradicting_evidence", .dicts (hypothesis.contradictingEvidence.map evidenceDict)),
    ("missing_evidence", .dicts (hypothesis.missingEvidence.map evidenceDict))]

def uplinkName (uplink : UplinkSelection) : Option String :=
  uplink.interface.elim (some "unavailable") fun interface => nameText interface.observedName

/-- The reply, unless an append fails. -/
def handleV2GetDiagnosis (observedName : RootCauseHypothesisObservation → ByteString)
    (diagnosis : DiagnosisSnapshot) : Option Dict := do
  let hypotheses ← diagnosis.hypotheses.mapM fun hypothesis =>
    hypothesisDict (observedName hypothesis) hypothesis
  let uplink ← uplinkName diagnosis.status.uplink
  return [("state", .string (overallDiagnosticStateName diagnosis.status.state)),
    ("active_incidents", .uint64 diagnosis.incidents.length),
    ("active_hypotheses", .uint64 diagnosis.hypotheses.length),
    ("incidents", .dicts (diagnosis.incidents.map incidentDict)),
    ("hypotheses", .dicts hypotheses), ("selected_uplink", .string uplink),
    ("limitations", .strings (diagnosis.limitations.map cText))]
end WeakNet.DbusService
