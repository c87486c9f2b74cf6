import WeakNet.NetworkEvent
import WeakNet.Foundation.OrderedMap
import WeakNet.Foundation.Runs

/-! Records are kept per incident key. An evaluation moves the streaks of a record and opens,
updates or resolves its incident; socket events resolve the incidents of closed and superseded
sockets. The only exception under the lock is the exhausted incident counter, which leaves the
record updated and drops the observations collected so far. -/

namespace WeakNet
open Foundation

structure IncidentPolicy where
  highRttActivationUs : ℕ
  highRttRecoveryUs : ℕ
  retransmissionActivationRatio : Double
  retransmissionRecoveryRatio : Double
  minimumDataSegments : ℕ
  activationConsecutive : ℕ
  recoveryConsecutive : ℕ
  maxRecentResolved : ℕ
  maxEvidencePerIncident : ℕ
  maxTrackedRecords : ℕ
deriving DecidableEq

/-- The condition under which the constructor throws. A ratio that is not a number
passes both comparisons. -/
def IncidentPolicy.rejected (policy : IncidentPolicy) : Bool :=
  decide (policy.highRttActivationUs ≤ policy.highRttRecoveryUs) ||
  policy.retransmissionActivationRatio.le policy.retransmissionRecoveryRatio ||
  policy.retransmissionRecoveryRatio.lt (.finite 0) ||
  policy.activationConsecutive == 0 || policy.recoveryConsecutive == 0 ||
  policy.maxRecentResolved == 0 || policy.maxEvidencePerIncident == 0 ||
  policy.maxTrackedRecords == 0

structure AcceptedPolicy extends IncidentPolicy where
  accepted : toIncidentPolicy.rejected = false

/-- The member initialisers; the ratios are the doubles nearest to 0.10 and 0.05. -/
def IncidentPolicy.standard : IncidentPolicy where
  highRttActivationUs := 200000
  highRttRecoveryUs := 150000
  retransmissionActivationRatio := .finite (3602879701896397 / 2 ^ 55)
  retransmissionRecoveryRatio := .finite (3602879701896397 / 2 ^ 56)
  minimumDataSegments := 10
  activationConsecutive := 2
  recoveryConsecutive := 2
  maxRecentResolved := 256
  maxEvidencePerIncident := 8
  maxTrackedRecords := 4096

theorem IncidentPolicy.standard_accepted : IncidentPolicy.standard.rejected = false := by
  decide +kernel

def IncidentType.code : IncidentType → ℕ
  | .highTcpRtt => 0
  | .elevatedTcpRetransmission => 1
  | .routeUnavailable => 2
  | .uplinkUnavailable => 3
  | .socketRouteConflict => 4

def IncidentScope.code : IncidentScope → List ℕ
  | .socket id => 0 :: id.code
  | .interface ifindex => [1, ifindex]
  | .netns id => [2, id.device, id.inode]

theorem IncidentScope.code_injective : Function.Injective IncidentScope.code := by
  intro a b h
  cases a with
  | socket _ =>
    cases b with
    | socket _ => rw [SocketId.code_injective (List.cons.inj h).2]
    | interface _ | netns _ => simp [code] at h
  | interface _ =>
    cases b with
    | socket _ | netns _ => simp [code] at h
    | interface _ => simpa [code] using h
  | netns id =>
    cases b with
    | socket _ | interface _ => simp [code] at h
    | netns id' =>
      obtain ⟨d, i⟩ := id
      obtain ⟨d', i'⟩ := id'
      simpa [code] using h

theorem IncidentScope.key_injective {α : Type*} {type : α → ℕ} {scope : α → IncidentScope}
    (h : ∀ a b, type a = type b → scope a = scope b → a = b) :
    Function.Injective fun a => type a :: (scope a).code := by
  intro a b hcode
  obtain ⟨htype, hscope⟩ := List.cons.inj hcode
  exact h a b htype (IncidentScope.code_injective hscope)

@[ext]
structure IncidentKey where
  type : IncidentType
  scope : IncidentScope

namespace IncidentKey
def code (key : IncidentKey) : List ℕ := key.type.code :: key.scope.code

theorem code_injective : Function.Injective code := by
  have htype : Function.Injective IncidentType.code := by
    intro a b h
    cases a <;> cases b <;> cases h <;> rfl
  exact IncidentScope.key_injective fun a b ht hscope => IncidentKey.ext (htype ht) hscope

instance : LinearOrder IncidentKey := LinearOrder.lift' code code_injective
end IncidentKey

def IncidentObservation.blank : IncidentObservation where
  id := 0
  type := .highTcpRtt
  scope := .netns ⟨0, 0⟩
  state := .active
  severity := .warning
  confidence := .unknown
  openedAt := 0
  openedMonotonicAt := 0
  lastUpdatedAt := 0
  lastUpdatedMonotonicAt := 0
  resolvedAt := none
  resolvedMonotonicAt := none
  evidence := []
  condition := ""
  resolutionCondition := none
  validity := .valid
  evidenceCompleteness := .complete
  source := .incidentEngine

structure IncidentRecord where
  netns : NetnsId
  badStreak : ℕ
  goodStreak : ℕ
  active : Bool
  observation : IncidentObservation
deriving DecidableEq

inductive Evaluation where
  | bad | good | neutral | unavailable
deriving DecidableEq

structure IncidentEngine where
  policy : AcceptedPolicy
  records : OrderedMap IncidentKey IncidentRecord
  authoritativeSockets : OrderedMap SocketId Bool
  resolved : List IncidentObservation
  nextIncidentId : ℕ

namespace IncidentEngine
def initial (policy : AcceptedPolicy) : IncidentEngine where
  policy := policy
  records := .empty
  authoritativeSockets := .empty
  resolved := []
  nextIncidentId := 1

def evidenceEquivalent (a b : IncidentEvidence) : Bool :=
  a.sourceKind == b.sourceKind && a.source == b.source && a.scope == b.scope &&
  (match a.value, b.value with
    | none, none => true
    | some x, some y => x.same y
    | _, _ => false) &&
  a.unit == b.unit && a.validity == b.validity && a.condition == b.condition

def makeEvidence (event : NetworkEvent) (scope : IncidentScope)
    (value : Option IncidentEvidenceValue) (unit : IncidentEvidenceUnit) (validity : Validity)
    (condition : String) : IncidentEvidence where
  sourceKind := event.header.kind
  source := event.header.source
  scope := scope
  observedAt := event.header.observedAt
  monotonicAt := event.header.monotonicAt
  value := value
  unit := unit
  validity := validity
  condition := condition

def repeatsLast (incident : IncidentObservation) (evidence : IncidentEvidence) : Bool :=
  match incident.evidence.getLast? with
  | some last => evidenceEquivalent last evidence
  | none => false

def appendEvidence (policy : IncidentPolicy) (incident : IncidentObservation)
    (evidence : IncidentEvidence) : IncidentObservation :=
  if repeatsLast incident evidence then incident
  else if incident.evidence.length < policy.maxEvidencePerIncident then
    { incident with evidence := incident.evidence ++ [evidence] }
  else if policy.maxEvidencePerIncident = 1 then
    { incident with evidence := incident.evidence.set 0 evidence }
  else { incident with evidence := incident.evidence.eraseIdx 1 ++ [evidence] }

def confidenceFor : IncidentEvidenceCompleteness → IncidentConfidence
  | .complete => .high
  | .partly => .partly
  | .unavailable => .unknown

def validityFor : IncidentEvidenceCompleteness → Validity
  | .complete => .valid
  | _ => .partly

def resolvedCopy (incident : IncidentObservation) (realtime : RealtimeTime)
    (monotonic : MonotonicTime) (condition : String) : IncidentObservation :=
  { incident with
    state := .resolved
    lastUpdatedAt := realtime
    lastUpdatedMonotonicAt := monotonic
    resolvedAt := some realtime
    resolvedMonotonicAt := some monotonic
    resolutionCondition := some condition }

structure Working where
  engine : IncidentEngine
  emissions : List IncidentObservation

namespace Working
def setRecord (w : Working) (key : IncidentKey) (record : IncidentRecord) : Working :=
  { w with engine := { w.engine with records := w.engine.records.insert key record } }

def eraseRecord (w : Working) (key : IncidentKey) : Working :=
  { w with engine := { w.engine with records := w.engine.records.erase key } }

def emit (w : Working) (incident : IncidentObservation) : Working :=
  { w with emissions := w.emissions ++ [incident] }

def resolveRecordLocked (w : Working) (key : IncidentKey) (record : IncidentRecord)
    (realtime : RealtimeTime) (monotonic : MonotonicTime) (condition : String) : Working :=
  let resolved := resolvedCopy record.observation realtime monotonic condition
  let recent := w.engine.resolved ++ [resolved]
  let kept := recent.drop (recent.length - w.engine.policy.maxRecentResolved)
  ({ w with engine := { w.engine with resolved := kept } }.emit resolved).eraseRecord key

def resolveSocketRecord (id : SocketId) (realtime : RealtimeTime) (monotonic : MonotonicTime)
    (condition : String) (w : Working) (key : IncidentKey) : Working :=
  if key.scope = .socket id then
    match w.engine.records.find? key with
    | some record =>
      if record.active then w.resolveRecordLocked key record realtime monotonic condition
      else w.eraseRecord key
    | none => w
  else w

def resolveSocketLocked (w : Working) (id : SocketId) (realtime : RealtimeTime)
    (monotonic : MonotonicTime) (condition : String) : Working :=
  (w.engine.records.entries.map Prod.fst).foldl
    (resolveSocketRecord id realtime monotonic condition) w

def eraseAuthoritative (w : Working) (id : SocketId) : Working :=
  { w with engine :=
    { w.engine with authoritativeSockets := w.engine.authoritativeSockets.erase id } }

def setAuthoritative (w : Working) (id : SocketId) : Working :=
  { w with engine :=
    { w.engine with authoritativeSockets := w.engine.authoritativeSockets.insert id true } }

def supersededBy (w : Working) (current : SocketId) : List SocketId :=
  (w.engine.authoritativeSockets.entries.filter (fun e =>
    e.2 && e.1 != current && e.1.netns == current.netns && e.1.cookie == current.cookie)).map
    Prod.fst

def resolveSupersededSocketGenerationsLocked (w : Working) (current : SocketId)
    (realtime : RealtimeTime) (monotonic : MonotonicTime) : Working :=
  if current.cookie.isSome then
    (w.supersededBy current).foldl (fun w id =>
      (w.eraseAuthoritative id).resolveSocketLocked id realtime monotonic
        "socket generation superseded") w
  else w

def openIncident (policy : IncidentPolicy) (id : ℕ) (key : IncidentKey)
    (evidence : IncidentEvidence) (severity : IncidentSeverity)
    (completeness : IncidentEvidenceCompleteness) : IncidentObservation :=
  appendEvidence policy
    { IncidentObservation.blank with
      id := id
      type := key.type
      scope := key.scope
      state := .active
      severity := severity
      confidence := confidenceFor completeness
      openedAt := evidence.observedAt
      openedMonotonicAt := evidence.monotonicAt
      lastUpdatedAt := evidence.observedAt
      lastUpdatedMonotonicAt := evidence.monotonicAt
      condition := evidence.condition
      validity := validityFor completeness
      evidenceCompleteness := completeness }
    evidence

def updateIncident (policy : IncidentPolicy) (incident : IncidentObservation)
    (evidence : IncidentEvidence) (completeness : IncidentEvidenceCompleteness) :
    IncidentObservation :=
  { appendEvidence policy incident evidence with
    lastUpdatedAt := evidence.observedAt
    lastUpdatedMonotonicAt := evidence.monotonicAt
    evidenceCompleteness := completeness
    confidence := confidenceFor completeness
    validity := validityFor completeness }

/-- The end of `evaluateLocked` for a bad evaluation, on the record found or created. -/
def evaluateBad (w : Working) (key : IncidentKey) (netns : NetnsId) (evidence : IncidentEvidence)
    (severity : IncidentSeverity) (completeness : IncidentEvidenceCompleteness)
    (found : IncidentRecord) : Except Working Working :=
  let policy := w.engine.policy.toIncidentPolicy
  let record := { found with netns := netns, goodStreak := 0 }
  if record.active then
    let record := { record with
      badStreak := min (record.badStreak + 1) policy.activationConsecutive }
    if repeatsLast record.observation evidence then .ok (w.setRecord key record)
    else
      let incident := updateIncident policy record.observation evidence completeness
      .ok ((w.setRecord key { record with observation := incident }).emit incident)
  else
    let record := { record with badStreak := record.badStreak + 1 }
    if record.badStreak < policy.activationConsecutive then .ok (w.setRecord key record)
    else if w.engine.nextIncidentId = 0 then .error (w.setRecord key record)
    else
      let incident := openIncident policy w.engine.nextIncidentId key evidence severity completeness
      let w := w.setRecord key { record with observation := incident, active := true }
      .ok ({ w with engine := { w.engine with
        nextIncidentId := (w.engine.nextIncidentId + 1) % 2 ^ 64 } }.emit incident)

def evaluateLocked (w : Working) (key : IncidentKey) (netns : NetnsId) (evaluation : Evaluation)
    (evidence : IncidentEvidence) (severity : IncidentSeverity)
    (completeness : IncidentEvidenceCompleteness) : Except Working Working :=
  let policy := w.engine.policy.toIncidentPolicy
  match evaluation, w.engine.records.find? key with
  | .unavailable, _ => .ok w
  | .neutral, none => .ok w
  | .neutral, some record =>
    if record.active then .ok (w.setRecord key { record with goodStreak := 0 })
    else .ok (w.eraseRecord key)
  | .good, none => .ok w
  | .good, some record =>
    if record.active then
      let record := { record with badStreak := 0, goodStreak := record.goodStreak + 1 }
      if policy.recoveryConsecutive ≤ record.goodStreak then
        let record := { record with
          observation := appendEvidence policy record.observation evidence }
        .ok (w.resolveRecordLocked key record evidence.observedAt evidence.monotonicAt
          evidence.condition)
      else .ok (w.setRecord key record)
    else .ok (w.eraseRecord key)
  | .bad, none =>
    if policy.maxTrackedRecords ≤ w.engine.records.size then .ok w
    else w.evaluateBad key netns evidence severity completeness ⟨netns, 0, 0, false, .blank⟩
  | .bad, some record => w.evaluateBad key netns evidence severity completeness record

structure Verdict where
  evaluation : Evaluation
  condition : String

def processSocket (w : Working) (event : NetworkEvent) (socket : SocketObservation) : Working :=
  let header := event.header
  if socket.present ∧ socket.lifecycle = .active ∧ header.validity = .valid ∧
      socket.validity = .valid then
    (w.resolveSupersededSocketGenerationsLocked socket.id header.observedAt
      header.monotonicAt).setAuthoritative socket.id
  else if !socket.present ∨ socket.lifecycle = .closed then
    (w.eraseAuthoritative socket.id).resolveSocketLocked socket.id header.observedAt
      header.monotonicAt "socket lifecycle closed"
  else w

def rttVerdict (policy : IncidentPolicy) : Option ℕ → Verdict
  | none => ⟨.unavailable, "TCP-estimated RTT unavailable"⟩
  | some rtt =>
    if policy.highRttActivationUs ≤ rtt then ⟨.bad, "rtt_us >= high_rtt_activation_us"⟩
    else if rtt ≤ policy.highRttRecoveryUs then ⟨.good, "rtt_us <= high_rtt_recovery_us"⟩
    else ⟨.neutral, "RTT inside hysteresis band"⟩

def processTcpInfo (w : Working) (event : NetworkEvent) (tcp : TcpInfoObservation) :
    Except Working Working :=
  let header := event.header
  let w := w.resolveSupersededSocketGenerationsLocked tcp.id header.observedAt header.monotonicAt
  let scope := IncidentScope.socket tcp.id
  let rtt := if header.validity = .valid ∧ tcp.validity = .valid then
    tcp.raw.bind TcpInfoRaw.rttUs else none
  let verdict := rttVerdict w.engine.policy.toIncidentPolicy rtt
  let evidence := makeEvidence event scope (rtt.map .integer) .microseconds
    (if rtt.isSome then .valid else header.validity) verdict.condition
  w.evaluateLocked ⟨.highTcpRtt, scope⟩ tcp.netns verdict.evaluation evidence .warning
    (if rtt.isSome then .complete else .unavailable)

def retransmissionVerdict (policy : IncidentPolicy) (volumeOk : Bool) : Option Double → Verdict
  | none => ⟨.unavailable, if volumeOk then "retransmission-segment ratio unavailable"
      else "insufficient data segments for retransmission rule"⟩
  | some ratio =>
    if policy.retransmissionActivationRatio.le ratio then
      ⟨.bad, "retransmission_segment_ratio >= activation threshold"⟩
    else if ratio.le policy.retransmissionRecoveryRatio then
      ⟨.good, "retransmission_segment_ratio <= recovery threshold"⟩
    else ⟨.neutral, "retransmission ratio inside hysteresis band"⟩

def processTcpInterval (w : Working) (event : NetworkEvent) (metric : TcpIntervalMetrics) :
    Except Working Working :=
  let header := event.header
  let w := w.resolveSupersededSocketGenerationsLocked metric.id header.observedAt
    header.monotonicAt
  let policy := w.engine.policy.toIncidentPolicy
  let scope := IncidentScope.socket metric.id
  let volumeOk := policy.minimumDataSegments == 0 ||
    metric.deltaDataSegsOut.any (fun n => policy.minimumDataSegments ≤ n)
  let ratio := if header.validity = .valid ∧ metric.validity = .valid ∧ volumeOk ∧
      metric.unavailableReason ≠ some .counterReset then
    metric.retransmissionSegmentRatio else none
  let verdict := retransmissionVerdict policy volumeOk ratio
  let evidence := makeEvidence event scope (metric.retransmissionSegmentRatio.map .real) .ratio
    (if ratio.isSome then .valid else header.validity) verdict.condition
  w.evaluateLocked ⟨.elevatedTcpRetransmission, scope⟩ metric.id.netns verdict.evaluation evidence
    .warning (if ratio.isSome then .complete else .unavailable)

def routeVerdict (authoritative explicitlyMissing : Bool) (status : RouteAttributionStatus) :
    Verdict :=
  if explicitlyMissing then ⟨.bad, "authoritative model has no matching route"⟩
  else if authoritative ∧ status = .available then ⟨.good, "modeled route available"⟩
  else ⟨.unavailable, "route attribution insufficient"⟩

def conflictVerdict (authoritative conflict : Bool) (status : RouteAttributionStatus) : Verdict :=
  if conflict then ⟨.bad, "diag_ifindex conflicts with modeled route interfaces"⟩
  else if authoritative ∧ status = .available then
    ⟨.good, "modeled route and available interface evidence agree"⟩
  else ⟨.unavailable, "routing evidence insufficient"⟩

def processSocketRoute (w : Working) (event : NetworkEvent)
    (route : SocketRouteContextObservation) : Except Working Working := do
  let header := event.header
  let scope := IncidentScope.socket route.socketId
  let authoritative := (w.engine.authoritativeSockets.find? route.socketId).getD false
  let explicitlyMissing : Bool := authoritative && route.attributionStatus == .unavailable &&
    decide (.noModeledRoute ∈ route.reasons) &&
    decide (.topologyNonAuthoritative ∉ route.reasons) &&
    decide (.topologyPartial ∉ route.reasons) && decide (.topologyDegraded ∉ route.reasons)
  let missing := routeVerdict authoritative explicitlyMissing route.attributionStatus
  let w ← w.evaluateLocked ⟨.routeUnavailable, scope⟩ route.netns missing.evaluation
    (makeEvidence event scope none .none header.validity missing.condition) .warning
    (if explicitlyMissing then .complete else .unavailable)
  let conflict : Bool := authoritative && decide (.diagIfindexConflicts ∈ route.reasons) &&
    (route.attributionStatus == .partly || route.attributionStatus == .ambiguous)
  let conflicting := conflictVerdict authoritative conflict route.attributionStatus
  let diagValue := (route.diagIfindex.filter (· != 0)).map IncidentEvidenceValue.integer
  w.evaluateLocked ⟨.socketRouteConflict, scope⟩ route.netns conflicting.evaluation
    (makeEvidence event scope diagValue .count header.validity conflicting.condition) .warning
    (if conflict then .partly else .unavailable)

def uplinkVerdict (selected : Bool) (validity : Validity) : Verdict :=
  if selected ∧ (validity = .valid ∨ validity = .partly) then
    ⟨.good, "authoritative model selected a usable uplink"⟩
  else if !selected ∧ (validity = .unavailable ∨ validity = .valid) then
    ⟨.bad, "authoritative model has no usable selected uplink"⟩
  else ⟨.unavailable, "uplink evidence unavailable"⟩

def processUplink (w : Working) (event : NetworkEvent) (uplink : UplinkObservation) :
    Except Working Working :=
  let header := event.header
  let scope := IncidentScope.netns header.netns
  let verdict := uplinkVerdict uplink.selected header.validity
  let evidence := makeEvidence event scope none .none header.validity verdict.condition
  w.evaluateLocked ⟨.uplinkUnavailable, scope⟩ header.netns verdict.evaluation evidence .warning
    (if verdict.evaluation = .unavailable then .unavailable else .complete)

/-- The switch over the kind of the event, which for a constructed event is the kind of its
payload; `none` when the event is not consumed. -/
def dispatch (w : Working) (event : NetworkEvent) : Option (Except Working Working) :=
  match event.payload with
  | .socket o =>
    if event.header.source = .socketTracker then some (.ok (w.processSocket event o)) else none
  | .tcpInfo o =>
    if event.header.source = .socketTracker then some (w.processTcpInfo event o) else none
  | .tcpInterval o =>
    if event.header.source = .socketTracker then some (w.processTcpInterval event o) else none
  | .socketRoute o =>
    if event.header.source = .socketTracker then some (w.processSocketRoute event o) else none
  | .uplink o =>
    if event.header.source = .netlinkCollector then some (w.processUplink event o) else none
  | _ => none
end Working

inductive ProcessOutcome where
  | threw
  | done (consumed : Bool) (emissions : List IncidentObservation)
deriving DecidableEq

def process (e : IncidentEngine) (event : NetworkEvent) : IncidentEngine × ProcessOutcome :=
  match Working.dispatch ⟨e, []⟩ event with
  | none => (e, .done false [])
  | some (.ok w) => (w.engine, .done true w.emissions)
  | some (.error w) => (w.engine, .threw)

def listActiveIncidents (e : IncidentEngine) : List IncidentObservation :=
  (e.records.entries.filter (fun r => r.2.active)).map (fun r => r.2.observation)

def scopeNetns : IncidentScope → NetnsId
  | .socket id => id.netns
  | .interface _ => ⟨0, 0⟩
  | .netns id => id

def publishHeader (eventId : ℕ) (incident : IncidentObservation) : NetworkEventHeader :=
  let netns := scopeNetns incident.scope
  let fallback := match incident.evidence.getLast? with
    | some evidence =>
      match evidence.scope with
      | .socket id => id.netns
      | .netns id => id
      | .interface _ => netns
    | none => netns
  { schemaVersion := networkEventSchemaVersion
    eventId := eventId
    sequence := 0
    kind := .incidentObservation
    source := .incidentEngine
    observedAt := incident.lastUpdatedAt
    monotonicAt := incident.lastUpdatedMonotonicAt
    netns := if netns.inode = 0 then fallback else netns
    interface := match incident.scope with
      | .interface ifindex => some ⟨ifindex, []⟩
      | _ => none
    socket := match incident.scope with
      | .socket id => some id
      | _ => none
    validity := incident.validity
    status := none }

def publish (eventId : ℕ) (incident : IncidentObservation) : Except String NetworkEvent :=
  NetworkEvent.make (publishHeader eventId incident) (.incident incident)
end IncidentEngine
end WeakNet
