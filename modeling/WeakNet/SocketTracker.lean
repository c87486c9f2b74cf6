import WeakNet.SocketDiagParser
import WeakNet.SocketLifecycleTable
import WeakNet.SocketRouteAttributor
import WeakNet.TcpIntervals

/-! `SocketTracker`: a reconciliation dumps the sockets of both families, resolves them as one
authoritative snapshot and publishes what the commit changed. `clock` gives the readings of the
clock in order. Samples written to the metric store are left out. No caller catches the exception of
a `NetworkEvent` constructor, so a tracker that threw makes no further step. -/

namespace WeakNet
open Foundation Foundation.Runs

structure SocketTrackerTelemetry where
  reconciliationAttempts : ℕ := 0
  reconciliationSuccesses : ℕ := 0
  reconciliationFailures : ℕ := 0
  timeouts : ℕ := 0
  truncations : ℕ := 0
  interruptedDumps : ℕ := 0
  netlinkErrors : ℕ := 0
  overflowEvents : ℕ := 0
  malformedMessages : ℕ := 0
  parsedSocketCount : ℕ := 0
  authoritativeCommits : ℕ := 0
  capacityExhaustions : ℕ := 0
  tcpInfoAttributesSeen : ℕ := 0
  tcpInfoUnavailable : ℕ := 0
  tcpInfoMalformed : ℕ := 0
  intervalBaselinesCreated : ℕ := 0
  validIntervalsComputed : ℕ := 0
  intervalsIdentityRejected : ℕ := 0
  intervalsFieldUnavailable : ℕ := 0
  intervalsCounterReset : ℕ := 0
  intervalsZeroDenominator : ℕ := 0
  intervalsTimestampRejected : ℕ := 0
  activeSocketCount : ℕ := 0
  degraded : Bool := false
  lastError : String := ""
  lastSuccessfulReconciliation : Option RealtimeTime := none
deriving DecidableEq

def SocketTrackerTelemetry.recordReason (t : SocketTrackerTelemetry) :
    TcpMetricUnavailableReason → SocketTrackerTelemetry
  | .identityChanged | .generationChanged =>
    { t with intervalsIdentityRejected := t.intervalsIdentityRejected + 1 }
  | .fieldUnavailable | .noPreviousSample | .partialObservation =>
    { t with intervalsFieldUnavailable := t.intervalsFieldUnavailable + 1 }
  | .counterReset => { t with intervalsCounterReset := t.intervalsCounterReset + 1 }
  | .zeroDenominator => { t with intervalsZeroDenominator := t.intervalsZeroDenominator + 1 }
  | .nonIncreasingTimestamp =>
    { t with intervalsTimestampRejected := t.intervalsTimestampRejected + 1 }

abbrev Clock := ℕ → RealtimeTime × MonotonicTime

structure SocketTracker where
  netns : NetnsId
  lifecycle : SocketLifecycleTable
  tcpBaselines : OrderedMap SocketId TcpInfoObservation
  attributes : Bool
  routeTopology : TopologySnapshot
  routeUplink : UplinkSelection
  routeContexts : OrderedMap SocketId SocketRouteContextObservation
  telemetry : SocketTrackerTelemetry
  nextEventId : ℕ
  reads : ℕ
  published : List NetworkEvent
  threw : Bool

namespace SocketTracker

def create (netns : NetnsId) (_ : netns.inode ≠ 0) (config : SocketLifecycleConfig) :
    SocketTracker where
  netns := netns
  lifecycle := .initial config
  tcpBaselines := .empty
  attributes := false
  routeTopology := .blank ⟨0, 0⟩
  routeUplink := .blank
  routeContexts := .empty
  telemetry := {}
  nextEventId := 1
  reads := 0
  published := []
  threw := false

def markFailure (t : SocketTracker) (reason : String) : SocketTracker :=
  { t with telemetry := { t.telemetry with
      reconciliationFailures := t.telemetry.reconciliationFailures + 1
      degraded := true
      lastError := reason } }

inductive DumpEvent where
  | idle
  | failed
  | overflow
  | truncated
  | deadline
  | datagram (sender : ℕ) (bytes : ByteString)

/-- Where the sockets of one family come from: the test hook, or the replies to a request, of
which the receive loop sees `events` until a stop request ends it. -/
inductive DumpSource where
  | hook (result : Option (List SocketDiagRecord))
  | replies (sent : Bool) (sequence : ℕ) (events : List DumpEvent)

structure DumpState where
  telemetry : SocketTrackerTelemetry
  output : List SocketDiagRecord
  complete : Bool

def dumpMessage (d : DumpState) (item : SocketDiagMessage) : Except DumpState DumpState :=
  match item.kind, item.socket with
  | .error, _ =>
    if item.errorCode ≠ 0 then
      .error { d with telemetry :=
        { d.telemetry with netlinkErrors := d.telemetry.netlinkErrors + 1 } }
    else .ok d
  | .socket, some record => .ok { d with output := d.output ++ [record] }
  | .socket, none => .ok d
  | .done, _ =>
    if item.dumpInterrupted then
      .error { d with telemetry :=
        { d.telemetry with interruptedDumps := d.telemetry.interruptedDumps + 1 } }
    else .ok { d with complete := true }

def dumpLoop (netns : NetnsId) (sequence : ℕ) : List DumpEvent → DumpState → DumpState × Bool
  | [], d => (d, false)
  | .idle :: events, d => dumpLoop netns sequence events d
  | .failed :: _, d => (d, false)
  | .overflow :: _, d =>
    ({ d with telemetry :=
      { d.telemetry with overflowEvents := d.telemetry.overflowEvents + 1 } }, false)
  | .truncated :: _, d =>
    ({ d with telemetry := { d.telemetry with truncations := d.telemetry.truncations + 1 } }, false)
  | .deadline :: _, d =>
    ({ d with telemetry := { d.telemetry with timeouts := d.telemetry.timeouts + 1 } }, false)
  | .datagram sender bytes :: events, d =>
    let parsed := SocketDiagParser.parse bytes sender (some sequence) netns
    if parsed.dumpInterrupted then
      ({ d with telemetry :=
        { d.telemetry with interruptedDumps := d.telemetry.interruptedDumps + 1 } }, false)
    else if parsed.malformed then
      ({ d with telemetry :=
        { d.telemetry with malformedMessages := d.telemetry.malformedMessages + 1 } }, false)
    else match parsed.messages.foldlM dumpMessage d with
      | .error stopped => (stopped, false)
      | .ok next => if next.complete then (next, true) else dumpLoop netns sequence events next

def dumpFamily (netns : NetnsId) (d : DumpState) : DumpSource → DumpState × Bool
  | .hook none => (d, false)
  | .hook (some result) => ({ d with output := d.output ++ result }, true)
  | .replies sent sequence events =>
    if sent then dumpLoop netns sequence events { d with complete := false } else (d, false)

def dumpFamilies (netns : NetnsId) (telemetry : SocketTrackerTelemetry)
    (inet inet6 : DumpSource) : SocketTrackerTelemetry × Option (List SocketDiagRecord) :=
  match dumpFamily netns ⟨telemetry, [], false⟩ inet with
  | (d, false) => (d.telemetry, none)
  | (d, true) =>
    match dumpFamily netns d inet6 with
    | (d, false) => (d.telemetry, none)
    | (d, true) => (d.telemetry, some d.output)

abbrev Attempt := SocketTracker × Option String

def Attempt.andThen (a : Attempt) (next : SocketTracker → Attempt) : Attempt :=
  match a with
  | (t, none) => next t
  | (t, some text) => (t, some text)

section
variable (next : SocketTracker → Attempt)
theorem Attempt.andThen_of_none {a : Attempt} (h : a.2 = none) :
    a.andThen next = next a.1 := by
  obtain ⟨t, text⟩ := a
  obtain rfl : text = none := h
  rfl

theorem Attempt.andThen_of_ne_none {a : Attempt} (h : a.2 ≠ none) : a.andThen next = a := by
  obtain ⟨t, text⟩ := a
  obtain ⟨text, rfl⟩ := Option.ne_none_iff_exists'.mp h
  rfl
end

/-- Takes the next event number and `reads` readings of the clock, and hands the event to the
bus unless its constructor throws. -/
def emit (t : SocketTracker) (reads : ℕ) (draft : NetworkEventHeader × NetworkEventPayload) :
    Attempt :=
  let t := { t with nextEventId := t.nextEventId + 1, reads := t.reads + reads }
  match NetworkEvent.make draft.1 draft.2 with
  | .ok event => ({ t with published := t.published ++ [event] }, none)
  | .error text => (t, some text)

def emitAll {α : Type} (reads : ℕ)
    (draft : SocketTracker → α → NetworkEventHeader × NetworkEventPayload) :
    List α → SocketTracker → Attempt
  | [], t => (t, none)
  | a :: rest, t => (t.emit reads (draft t a)).andThen (emitAll reads draft rest)

def header (t : SocketTracker) (kind : EventKind) (observedAt : RealtimeTime)
    (monotonicAt : MonotonicTime) (netns : NetnsId) (interface : Option InterfaceId)
    (socket : SocketId) (validity : Validity) : NetworkEventHeader where
  schemaVersion := networkEventSchemaVersion
  eventId := t.nextEventId
  sequence := 0
  kind := kind
  source := .socketTracker
  observedAt := observedAt
  monotonicAt := monotonicAt
  netns := netns
  interface := interface
  socket := some socket
  validity := validity
  status := none

def socketEvent (t : SocketTracker) (o : SocketObservation) :
    NetworkEventHeader × NetworkEventPayload :=
  (t.header .socketObservation o.observedAt o.monotonicAt o.netns none o.id o.validity, .socket o)

def contextValidity : RouteAttributionStatus → Validity
  | .available => .valid
  | .ambiguous => .partly
  | .unavailable => .unavailable
  | .partly => .partly

def contextEvent (clock : Clock) (t : SocketTracker) (context : SocketRouteContextObservation) :
    NetworkEventHeader × NetworkEventPayload :=
  (t.header .socketRouteObservation (clock t.reads).1 (clock t.reads).2 context.netns
    context.selectedInterface context.socketId (contextValidity context.attributionStatus),
    .socketRoute context)

def tcpInfoEvent (t : SocketTracker) (o : TcpInfoObservation) :
    NetworkEventHeader × NetworkEventPayload :=
  (t.header .tcpInfoObservation o.observedAt o.monotonicAt o.netns none o.id o.validity,
    .tcpInfo o)

def intervalEvent (clock : Clock) (t : SocketTracker) (metrics : TcpIntervalMetrics) :
    NetworkEventHeader × NetworkEventPayload :=
  (t.header .tcpIntervalMetric (clock t.reads).1 metrics.intervalEnd metrics.id.netns none
    metrics.id metrics.validity, .tcpInterval metrics)

def activeSockets (table : SocketLifecycleTable) : List SocketObservation :=
  table.active.entries.map Prod.snd

def changed (before : List SocketObservation) (o : SocketObservation) : Bool :=
  match before.find? fun old => old.id == o.id with
  | none => true
  | some old =>
    old.tuple != o.tuple || old.tcpState != o.tcpState || old.diagIfindex != o.diagIfindex

def closedSockets (clock : Clock) (before after : List SocketObservation) (reads : ℕ) :
    List SocketObservation :=
  (before.filter fun item => !after.any fun o => o.id == item.id).zipIdx.map fun (item, i) =>
    { SocketLifecycleTable.closedCopy item with
      observedAt := (clock (reads + i)).1
      monotonicAt := (clock (reads + i)).2 }

/-- Contexts of closed sockets go, those of all active ones are computed from the copy of the
topology that was read before. -/
def attributeCommitted (t : SocketTracker) (topology : TopologySnapshot)
    (uplink : UplinkSelection) (after closed : List SocketObservation) :
    SocketTracker × List SocketRouteContextObservation :=
  let contexts := after.map fun item =>
    SocketRouteAttributor.attributeSocket item topology uplink
  let kept := closed.foldl (fun m item => m.erase item.id) t.routeContexts
  let stored := contexts.foldl (fun m context => m.insert context.socketId context) kept
  ({ t with routeContexts := stored }, contexts)

def publishContexts (clock : Clock) (after closed : List SocketObservation) (t : SocketTracker) :
    Attempt :=
  if t.attributes then
    let attributed := t.attributeCommitted t.routeTopology t.routeUplink after closed
    emitAll 1 (contextEvent clock) attributed.2 attributed.1
  else (t, none)

def tcpInfoOf (item : SocketObservation) : TcpInfoObservation where
  id := item.id
  netns := item.netns
  tuple := item.tuple
  tcpState := item.tcpState
  raw := item.tcpInfo
  observedAt := item.observedAt
  monotonicAt := item.monotonicAt
  validity := if item.tcpInfo.isSome then .valid else .unavailable
  malformed := item.tcpInfoMalformed

def pruneBaselines (baselines : OrderedMap SocketId TcpInfoObservation)
    (after : List SocketObservation) : OrderedMap SocketId TcpInfoObservation :=
  baselines.filter fun e =>
    (after.find? fun o => o.id == e.1).any fun o => o.tcpInfo.isSome

structure Sampling where
  baselines : OrderedMap SocketId TcpInfoObservation
  telemetry : SocketTrackerTelemetry
  intervals : List TcpIntervalMetrics

def countUnavailable (telemetry : SocketTrackerTelemetry) (malformed : Bool) :
    SocketTrackerTelemetry :=
  { telemetry with
    tcpInfoAttributesSeen := telemetry.tcpInfoAttributesSeen + (if malformed then 1 else 0)
    tcpInfoUnavailable := telemetry.tcpInfoUnavailable + 1
    tcpInfoMalformed := telemetry.tcpInfoMalformed + (if malformed then 1 else 0) }

def countResult (telemetry : SocketTrackerTelemetry) (result : TcpIntervalResult) :
    SocketTrackerTelemetry :=
  match result.metrics with
  | some metrics =>
    let counted := if metrics.validity = .valid then
      { telemetry with validIntervalsComputed := telemetry.validIntervalsComputed + 1 }
      else telemetry
    metrics.unavailableReason.elim counted counted.recordReason
  | none => result.reason.elim telemetry telemetry.recordReason

def sampleSocket (s : Sampling) (item : SocketObservation) : Sampling :=
  let current := tcpInfoOf item
  if current.raw.isNone then
    { s with telemetry := countUnavailable s.telemetry current.malformed }
  else
    let telemetry := { s.telemetry with
      tcpInfoAttributesSeen := s.telemetry.tcpInfoAttributesSeen + 1 }
    match s.baselines.find? current.id with
    | none =>
      { s with
        baselines := s.baselines.insert current.id current
        telemetry := { telemetry with
          intervalBaselinesCreated := telemetry.intervalBaselinesCreated + 1 } }
    | some previous =>
      let result := TcpIntervalCalculator.calculate previous current
      { baselines := s.baselines.insert current.id current
        telemetry := countResult telemetry result
        intervals := s.intervals ++ result.metrics.toList }

def sampleAll (t : SocketTracker) (after : List SocketObservation) : Sampling :=
  after.foldl sampleSocket ⟨pruneBaselines t.tcpBaselines after, t.telemetry, []⟩

def publishSamples (clock : Clock) (after : List SocketObservation) (t : SocketTracker) :
    Attempt :=
  let sampled := t.sampleAll after
  (emitAll 0 tcpInfoEvent (after.map tcpInfoOf)
    { t with tcpBaselines := sampled.baselines, telemetry := sampled.telemetry }).andThen
    (emitAll 1 (intervalEvent clock) sampled.intervals)

def publishCommitted (clock : Clock) (before after closed : List SocketObservation)
    (t : SocketTracker) : Attempt :=
  ((emitAll 0 socketEvent (after.filter (changed before) ++ closed) t).andThen
    (publishContexts clock after closed)).andThen (publishSamples clock after)

def input (reading : RealtimeTime × MonotonicTime) (record : SocketDiagRecord) :
    SocketObservationInput where
  tuple := record.tuple
  cookie := record.cookie
  observedAt := reading.1
  monotonicAt := reading.2
  source := .socketTracker
  validity := .valid
  present := true
  tcpState := record.tcpState
  diagIfindex := record.diagIfindex
  tcpInfo := record.tcpInfo
  tcpInfoMalformed := record.tcpInfoMalformed

inductive Observing where
  | accepted
  | refused
  | exhausted
deriving DecidableEq

/-- The loop over the records; it stops at the first refusal, and the exhaustion of the
generations leaves it as an exception. -/
def observeRecords (clock : Clock) :
    List SocketDiagRecord → SocketLifecycleTable × ℕ → SocketLifecycleTable × ℕ × Observing
  | [], (table, reads) => (table, reads, .accepted)
  | record :: records, (table, reads) =>
    match table.observe (input (clock reads) record) with
    | (table, .accepted _) => observeRecords clock records (table, reads + 1)
    | (table, .refused) => (table, reads + 1, .refused)
    | (table, .generationExhausted) => (table, reads + 1, .exhausted)

inductive Outcome where
  | returned (ok : Bool)
  | threw (text : String)
deriving DecidableEq

def finish (clock : Clock) (t : SocketTracker) (table : SocketLifecycleTable) (count : ℕ) :
    SocketTracker × Outcome :=
  let before := activeSockets t.lifecycle
  let after := activeSockets table
  let closed := closedSockets clock before after t.reads
  match publishCommitted clock before after closed
      { t with lifecycle := table, reads := t.reads + closed.length } with
  | (t, some text) => (t, .threw text)
  | (t, none) =>
    ({ t with
      reads := t.reads + 1
      telemetry := { t.telemetry with
        reconciliationSuccesses := t.telemetry.reconciliationSuccesses + 1
        authoritativeCommits := t.telemetry.authoritativeCommits + 1
        parsedSocketCount := t.telemetry.parsedSocketCount + count
        activeSocketCount := after.length
        degraded := false
        lastError := ""
        lastSuccessfulReconciliation := some (clock t.reads).1 } }, .returned true)

def resolveRecords (clock : Clock) (t : SocketTracker) (records : List SocketDiagRecord) :
    SocketTracker × Outcome :=
  match t.lifecycle.beginSnapshot .authoritative with
  | (_, false) => (t.markFailure "snapshot_already_in_progress", .returned false)
  | (table, true) =>
    match observeRecords clock records (table, t.reads) with
    | (table, reads, .refused) =>
      let aborted := { t with
        lifecycle := table.abortSnapshot
        reads := reads
        telemetry := { t.telemetry with
          capacityExhaustions := t.telemetry.capacityExhaustions + 1 } }
      (aborted.markFailure "active_capacity_exhausted", .returned false)
    | (table, reads, .exhausted) =>
      ({ t with lifecycle := table, reads := reads },
        .threw "socket lifecycle generation exhausted")
    | (table, reads, .accepted) =>
      match table.commitSnapshot with
      | (table, false) =>
        ({ t with lifecycle := table, reads := reads }.markFailure "snapshot_commit_failed",
          .returned false)
      | (table, true) => finish clock { t with reads := reads } table records.length

def reconcile (clock : Clock) (t : SocketTracker) (inet inet6 : DumpSource) :
    SocketTracker × Outcome :=
  let attempted := { t.telemetry with
    reconciliationAttempts := t.telemetry.reconciliationAttempts + 1 }
  match dumpFamilies t.netns attempted inet inet6 with
  | (telemetry, none) =>
    ({ t with telemetry := telemetry }.markFailure "socket_dump_failed", .returned false)
  | (telemetry, some records) => resolveRecords clock { t with telemetry := telemetry } records

def recomputeSocket (clock : Clock) (topology : TopologySnapshot) (uplink : UplinkSelection)
    (t : SocketTracker) (item : SocketObservation) : Attempt :=
  let context := SocketRouteAttributor.attributeSocket item topology uplink
  let stored := { t with routeContexts := t.routeContexts.insert item.id context }
  stored.emit 1 (contextEvent clock stored context)

def recomputeAll (clock : Clock) (topology : TopologySnapshot) (uplink : UplinkSelection) :
    List SocketObservation → SocketTracker → Attempt
  | [], t => (t, none)
  | item :: items, t =>
    (recomputeSocket clock topology uplink t item).andThen
      (recomputeAll clock topology uplink items)

def recomputeRouteContexts (clock : Clock) (t : SocketTracker) (topology : TopologySnapshot)
    (uplink : UplinkSelection) : Attempt :=
  let copied := { t with
    routeTopology := topology
    routeUplink := uplink
    routeContexts := .empty }
  if t.attributes then
    recomputeAll clock topology uplink (activeSockets t.lifecycle) copied
  else (copied, none)

inductive Op where
  | reconcile (inet inet6 : DumpSource)
  | recomputeRouteContexts (topology : TopologySnapshot) (uplink : UplinkSelection)
  | setRouteAttributor (present : Bool)

def step (clock : Clock) (t : SocketTracker) (op : Op) : SocketTracker :=
  if t.threw then t
  else match op with
    | .reconcile inet inet6 =>
      match t.reconcile clock inet inet6 with
      | (t, .returned _) => t
      | (t, .threw _) => { t with threw := true }
    | .recomputeRouteContexts topology uplink =>
      match t.recomputeRouteContexts clock topology uplink with
      | (t, none) => t
      | (t, some _) => { t with threw := true }
    | .setRouteAttributor present => { t with attributes := present }
end SocketTracker
end WeakNet
