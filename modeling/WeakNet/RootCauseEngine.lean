import WeakNet.RootCauseCandidates

/-! `process` puts an event into its cache and, when that changed something, opens or updates
hypotheses in key order as far as the bound allows and resolves those without a candidate. An
exception leaves the caches updated; one thrown while candidates are built leaves the hypotheses
alone, an exhausted counter keeps what was opened and updated before it. Nothing is published in
either case. -/

namespace WeakNet
open Foundation Foundation.OrderedMap

def sameEvidence (a b : List RootCauseEvidence) : Bool :=
  a.length == b.length && (a.zip b).all (fun e => e.1.evidenceEquivalent e.2)

def sameContent (a b : RootCauseHypothesisObservation) : Bool :=
  a.type == b.type && a.scope == b.scope && a.confidence == b.confidence &&
  sameEvidence a.supportingEvidence b.supportingEvidence &&
  sameEvidence a.contradictingEvidence b.contradictingEvidence &&
  sameEvidence a.missingEvidence b.missingEvidence && a.reasonCode == b.reasonCode

def newerProbe (incoming current : ProbeObservation) : Bool :=
  decide (current.monotonicAt < incoming.monotonicAt) ||
  (incoming.monotonicAt == current.monotonicAt && decide (current.sequence ≤ incoming.sequence))

def ProbeCache.set (cache : ProbeCache) (kind : ProbeTargetKind)
    (event : Observed ProbeObservation) : ProbeCache :=
  match kind with
  | .gateway => { cache with gateway := some event }
  | .remote => { cache with remote := some event }

/-- The category of an associated sample after one of category `previous`. -/
def nextCategory (policy : RootCausePolicy) (previous : WifiSignalCategory) (signal : ℤ) :
    WifiSignalCategory :=
  match previous with
  | .veryWeak =>
    if policy.wifiSignalVeryWeakRecoverDbm ≤ signal then
      if signal ≤ policy.wifiSignalWeakDbm then .weak else .normal
    else .veryWeak
  | .weak =>
    if signal ≤ policy.wifiSignalVeryWeakDbm then .veryWeak
    else if policy.wifiSignalWeakRecoverDbm ≤ signal then .normal else .weak
  | .none | .normal =>
    if signal ≤ policy.wifiSignalVeryWeakDbm then .veryWeak
    else if signal ≤ policy.wifiSignalWeakDbm then .weak else .normal

def signalCategory (policy : RootCausePolicy) (current : Option WifiCacheEntry)
    (observation : WifiObservation) : WifiSignalCategory :=
  match observation.signalAvgDbm.or observation.signalDbm with
  | some signal =>
    if observation.capability = .available ∧ observation.linkState = .associated then
      nextCategory policy (current.elim .none WifiCacheEntry.signalCategory) signal
    else .none
  | none => .none

def supersededWifi (header : NetworkEventHeader) (observation : WifiObservation)
    (current : WifiCacheEntry) : Bool :=
  decide (observation.monotonicAt < current.event.observation.monotonicAt) ||
  (observation.monotonicAt == current.event.observation.monotonicAt &&
    decide (header.eventId ≤ current.event.header.eventId))

namespace RootCauseEngine
structure Working where
  engine : RootCauseEngine
  emissions : List RootCauseHypothesisObservation

namespace Working
def setActive (w : Working) (key : CandidateKey) (h : RootCauseHypothesisObservation) : Working :=
  { engine := { w.engine with active := w.engine.active.insert key h }
    emissions := w.emissions ++ [h] }

def openHypothesis (w : Working) (key : CandidateKey) (candidate : RootCauseHypothesisObservation) :
    Working :=
  let w' := w.setActive key { candidate with
    id := ⟨key.type, key.scope, w.engine.nextOccurrence⟩
    state := .active }
  { w' with engine := { w'.engine with
    nextOccurrence := (w.engine.nextOccurrence + 1) % 2 ^ 64 } }

def continued (current candidate : RootCauseHypothesisObservation) :
    RootCauseHypothesisObservation :=
  { candidate with
    id := current.id
    openedAt := current.openedAt
    state := .active
    lastUpdatedAt := max candidate.lastUpdatedAt current.lastUpdatedAt }

def reconcileCandidate (now : RealtimeTime) (w : Working)
    (entry : CandidateKey × RootCauseHypothesisObservation) : Except Working Working :=
  match w.engine.active.find? entry.1 with
  | none =>
    if w.engine.policy.maxActiveHypotheses ≤ w.engine.active.size then .ok w
    else if w.engine.nextOccurrence = 0 then .error w
    else .ok (w.openHypothesis entry.1 entry.2)
  | some current =>
    let h := continued current entry.2
    if sameContent current h then .ok w
    else .ok (w.setActive entry.1 { h with lastUpdatedAt := now })

def resolvedCopy (h : RootCauseHypothesisObservation) (now : RealtimeTime) :
    RootCauseHypothesisObservation :=
  { h with state := .resolved, resolvedAt := some now, lastUpdatedAt := now }

def resolveUnwanted (desired : CandidateMap) (now : RealtimeTime) (w : Working)
    (entry : CandidateKey × RootCauseHypothesisObservation) : Working :=
  if desired.contains entry.1 then w
  else
    let resolved := resolvedCopy entry.2 now
    let recent := w.engine.resolved ++ [resolved]
    { engine := { w.engine with
        active := w.engine.active.erase entry.1
        resolved := recent.drop (recent.length - w.engine.policy.maxRecentResolved) }
      emissions := w.emissions ++ [resolved] }

def reconcileAll (desired : CandidateMap) (now : RealtimeTime) (w : Working) :
    Except Working Working :=
  desired.entries.foldlM (reconcileCandidate now) w

def resolveAll (desired : CandidateMap) (now : RealtimeTime) (w : Working) : Working :=
  w.engine.active.entries.foldl (resolveUnwanted desired now) w
end Working

inductive ProcessOutcome where
  | threw (error : RootCauseError)
  | done (consumed : Bool) (emissions : List RootCauseHypothesisObservation)

def reconcileLocked (engine : RootCauseEngine) (clock : ClockReadings) (now : RealtimeTime) :
    RootCauseEngine × ProcessOutcome :=
  match engine.buildCandidatesLocked clock with
  | .error error => (engine, .threw error)
  | .ok desired =>
    match Working.reconcileAll desired now ⟨engine, []⟩ with
    | .error w => (w.engine, .threw .occurrenceExhausted)
    | .ok w =>
      let done := w.resolveAll desired now
      (done.engine, .done true done.emissions)

/-- What an event does to the caches: nothing at all, nothing although it is consumed, or a
change after which the hypotheses are reconciled. -/
inductive Absorbed where
  | ignored
  | unchanged
  | changed (engine : RootCauseEngine)

def absorbIncident (engine : RootCauseEngine) (incident : IncidentObservation) : Absorbed :=
  let bound := engine.policy.cacheBound
  match incident.state with
  | .active => .changed { engine with
      activeIncidents := (engine.activeIncidents.insert incident.id incident).trim bound }
  | .resolved => .changed { engine with
      activeIncidents := (engine.activeIncidents.erase incident.id).trim bound }
  | .pending => .ignored

def absorbRoute (engine : RootCauseEngine) (header : NetworkEventHeader)
    (context : SocketRouteContextObservation) : Absorbed :=
  .changed { engine with
    routeEvents := (engine.routeEvents.insert context.socketId ⟨header, context⟩).trim
      engine.policy.cacheBound }

def absorbUplink (engine : RootCauseEngine) (header : NetworkEventHeader)
    (uplink : UplinkObservation) : Absorbed :=
  .changed { engine with
    uplinkEvents := (engine.uplinkEvents.insert header.netns ⟨header, uplink⟩).trim
      engine.policy.maxActiveHypotheses }

def absorbProbe (engine : RootCauseEngine) (header : NetworkEventHeader)
    (observation : ProbeObservation) : Absorbed :=
  let cache := (engine.probeEvents.find? observation.netns).getD ⟨none, none⟩
  let kind := observation.target.kind
  if (cache.get kind).any (fun current => !newerProbe observation current.observation) then
    .unchanged
  else .changed { engine with
    probeEvents := (engine.probeEvents.insert observation.netns
      (cache.set kind ⟨header, observation⟩)).trim engine.policy.maxActiveHypotheses }

def absorbWifi (engine : RootCauseEngine) (header : NetworkEventHeader)
    (observation : WifiObservation) : Absorbed :=
  match observation.interface with
  | none => .changed { engine with
      wifiEvents := engine.wifiEvents.filter (fun e => e.1.netns ≠ observation.netns) }
  | some interface =>
    let key : WifiCacheKey := ⟨observation.netns, interface.ifindex⟩
    let current := engine.wifiEvents.find? key
    if current.any (supersededWifi header observation) then .unchanged
    else .changed { engine with
      wifiEvents := (engine.wifiEvents.insert key ⟨⟨header, observation⟩,
        signalCategory engine.policy.toRootCausePolicy current observation⟩).trim
        engine.policy.cacheBound }

/-- The switch over the kind of the event, which for a constructed event is the kind of its
payload. The engine's own hypotheses are ignored. -/
def absorb (engine : RootCauseEngine) (event : NetworkEvent) : Absorbed :=
  match event.payload, event.header.source with
  | .incident incident, .incidentEngine => engine.absorbIncident incident
  | .socketRoute context, .socketTracker => engine.absorbRoute event.header context
  | .uplink uplink, .netlinkCollector => engine.absorbUplink event.header uplink
  | .probe observation, .activeProbe => engine.absorbProbe event.header observation
  | .wifi observation, .wifiCollector => engine.absorbWifi event.header observation
  | _, _ => .ignored

def process (engine : RootCauseEngine) (event : NetworkEvent) (clock : ClockReadings) :
    RootCauseEngine × ProcessOutcome :=
  match engine.absorb event with
  | .ignored => (engine, .done false [])
  | .unchanged => (engine, .done true [])
  | .changed engine => engine.reconcileLocked clock event.header.observedAt

def listActiveHypotheses (engine : RootCauseEngine) : List RootCauseHypothesisObservation :=
  engine.active.entries.map Prod.snd

def recentResolvedHypotheses (engine : RootCauseEngine) : List RootCauseHypothesisObservation :=
  engine.resolved

def getHypothesis (engine : RootCauseEngine) (id : RootCauseHypothesisId) :
    Option RootCauseHypothesisObservation :=
  (engine.listActiveHypotheses.find? (fun h => h.id == id)).or
    (engine.recentResolvedHypotheses.find? (fun h => h.id == id))

def publishNetns (h : RootCauseHypothesisObservation) : NetnsId :=
  let netns := IncidentEngine.scopeNetns h.scope
  if netns.inode = 0 then
    match h.supportingEvidence.head? with
    | some evidence =>
      match evidence.scope with
      | .socket id => id.netns
      | .netns id => id
      | .interface _ => netns
    | none => netns
  else netns

/-- `none` when the hypothesis has no namespace and is not published. -/
def publish (eventId : ℕ) (now : MonotonicTime) (h : RootCauseHypothesisObservation) :
    Option (Except String NetworkEvent) :=
  let netns := publishNetns h
  if netns.inode = 0 then none
  else some (NetworkEvent.make
    { schemaVersion := networkEventSchemaVersion
      eventId := eventId
      sequence := 0
      kind := .rootCauseHypothesisObservation
      source := .rootCauseEngine
      observedAt := h.lastUpdatedAt
      monotonicAt := now
      netns := netns
      interface := match h.scope with
        | .interface ifindex => some ⟨ifindex, []⟩
        | _ => none
      socket := match h.scope with
        | .socket id => some id
        | _ => none
      validity := .valid
      status := none } (.hypothesis h))

structure Delivery where
  event : NetworkEvent
  clock : ClockReadings

def step (engine : RootCauseEngine) (delivery : Delivery) : RootCauseEngine :=
  (engine.process delivery.event delivery.clock).1

def Reachable (policy : AcceptedRootCausePolicy) (engine : RootCauseEngine) : Prop :=
  ∃ deliveries, engine = Runs.run step (initial policy) deliveries
end RootCauseEngine
end WeakNet
