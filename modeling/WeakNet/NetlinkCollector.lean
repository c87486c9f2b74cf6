import WeakNet.Foundation.Runs
import WeakNet.TopologyState

/-! `NetlinkCollector`: reconciliations by four dumps, notification batches, the marks of a degraded
snapshot, and publication. A dump is the list of what its receive loop sees, and the worker loop the
list of its turns, in any order the timers may give. Publication stops at the first event whose
constructor throws; the snapshot stays installed. `clock` gives the readings for each event number. -/

namespace WeakNet
open Foundation Foundation.Runs TopologyState

structure NetlinkCollectorTelemetry where
  successfulReconciliations : ℕ := 0
  failedDumps : ℕ := 0
  interruptedDumps : ℕ := 0
  parseErrors : ℕ := 0
  truncations : ℕ := 0
  overflowEvents : ℕ := 0
  resyncRequests : ℕ := 0
  forcedResyncRequests : ℕ := 0
  notificationsObservedDuringReconciliation : ℕ := 0
  reconciliationRaces : ℕ := 0
  ambiguousRouteDeletes : ℕ := 0
  notificationApplyFailures : ℕ := 0
  notificationsProcessed : ℕ := 0
  stateChangesPublished : ℕ := 0
  degraded : Bool := false
  lastError : String := ""
deriving DecidableEq

def NetlinkCollectorTelemetry.forceResync (t : NetlinkCollectorTelemetry) (text : String) :
    NetlinkCollectorTelemetry :=
  { t with
    forcedResyncRequests := t.forcedResyncRequests + 1
    resyncRequests := t.resyncRequests + 1
    degraded := true
    lastError := text }

structure NetlinkCollector where
  netns : NetnsId
  state : TopologySnapshot
  selected : UplinkSelection
  telemetry : NetlinkCollectorTelemetry
  nextEventId : ℕ
  published : List NetworkEvent
  committed : List (TopologySnapshot × UplinkSelection)

namespace NetlinkCollector

def start (netns : NetnsId) (_ : netns.inode ≠ 0) : NetlinkCollector where
  netns := netns
  state := .blank netns
  selected := .blank
  telemetry := {}
  nextEventId := 1
  published := []
  committed := []

def dotted (bytes : ByteString) : String :=
  ".".intercalate (bytes.map fun b => toString b.toNat)

def words : ByteString → List ℕ
  | high :: low :: rest => (high.toNat * 256 + low.toNat) :: words rest
  | _ => []

def zeroRun : List ℕ → ℕ
  | 0 :: ws => zeroRun ws + 1
  | _ => 0

def bestRun (ws : List ℕ) : ℕ × ℕ :=
  (List.range ws.length).foldl
    (fun best i => if best.2 < zeroRun (ws.drop i) then (i, zeroRun (ws.drop i)) else best) (0, 1)

def hexWord (n : ℕ) : String := String.ofList (Nat.toDigits 16 n)

/-- `inet_ntop` for IPv6, the longest run of zero words compressed. -/
def ipv6Text (bytes : ByteString) : String :=
  let ws := words bytes
  let best := bestRun ws
  let inRun (i : ℕ) : Bool := 2 ≤ best.2 && best.1 ≤ i && i < best.1 + best.2
  let embedded : Bool :=
    best.1 == 0 && (best.2 == 6 || (best.2 == 5 && ws[5]? == some 65535))
  let piece (i : ℕ) : String :=
    if inRun i then if i = best.1 then ":" else ""
    else if embedded ∧ i = 6 then ":" ++ dotted (bytes.drop 12)
    else if embedded ∧ i = 7 then ""
    else (if i = 0 then "" else ":") ++ hexWord (ws.getD i 0)
  String.join ((List.range 8).map piece) ++
    if 2 ≤ best.2 ∧ best.1 + best.2 = 8 then ":" else ""

def addressString (address : Address) (family : ℕ) : String :=
  if family = afInet then dotted (address.bytes.take 4)
  else if family = afInet6 then ipv6Text address.bytes
  else ""

section Publish
variable (clock : ℕ → RealtimeTime × MonotonicTime)
def header (c : NetlinkCollector) (kind : EventKind) (interface : Option InterfaceId)
    (validity : Validity) (status : Option Status) : NetworkEventHeader where
  schemaVersion := networkEventSchemaVersion
  eventId := c.nextEventId
  sequence := 0
  kind := kind
  source := .netlinkCollector
  observedAt := (clock c.nextEventId).1
  monotonicAt := (clock c.nextEventId).2
  netns := c.netns
  interface := interface
  socket := none
  validity := validity
  status := status

def emit (c : NetlinkCollector) (head : NetworkEventHeader) (payload : NetworkEventPayload) :
    NetlinkCollector × Option String :=
  let c := { c with nextEventId := c.nextEventId + 1 }
  match NetworkEvent.make head payload with
  | .ok event => ({ c with published := c.published ++ [event] }, none)
  | .error text => (c, some text)

def presence (present : Bool) : Validity := if present then .valid else .partly

def messageEvent (c : NetlinkCollector) (message : ParsedMessage) :
    Option (NetworkEventHeader × NetworkEventPayload) :=
  match message.kind, message.link, message.address, message.route with
  | .link, some fact, _, _ => some
    (header clock c .linkObservation (some fact.interface) (presence fact.present) none,
      .link ⟨fact.interface.ifindex, fact.interface.observedName, fact.present, fact.up,
        fact.carrier != 0⟩)
  | .address, _, some fact, _ => some
    (header clock c .addressObservation (some fact.interface) (presence fact.present) none,
      .address ⟨fact.interface.ifindex, fact.family, fact.prefixLength,
        addressString fact.address fact.family, fact.present⟩)
  | .route, _, _, some fact => some
    (header clock c .routeObservation (fact.outputIfindex.map fun i => ⟨i, []⟩)
        (presence fact.present) none,
      .route ⟨fact.family, fact.destinationPrefix, fact.table, fact.priority,
        fact.outputIfindex.getD 0, fact.present, !fact.multipath.isEmpty, fact.onLink⟩)
  | _, _, _, _ => none

def publishMessage (c : NetlinkCollector) (message : ParsedMessage) :
    NetlinkCollector × Option String :=
  let sent := match messageEvent clock c message with
    | some (head, payload) => emit c head payload
    | none => ({ c with nextEventId := c.nextEventId + 1 }, none)
  match sent with
  | (c, none) => ({ c with telemetry :=
      { c.telemetry with stateChangesPublished := c.telemetry.stateChangesPublished + 1 } }, none)
  | (c, some text) => (c, some text)

def publishAll (c : NetlinkCollector) : List ParsedMessage → NetlinkCollector × Option String
  | [] => (c, none)
  | message :: messages =>
    match publishMessage clock c message with
    | (c, none) => publishAll c messages
    | (c, some text) => (c, some text)

def linkMessage (fact : LinkFact) : ParsedMessage :=
  { ParsedMessage.blank 0 0 with kind := .link, link := some fact }

def addressMessage (fact : AddressFact) : ParsedMessage :=
  { ParsedMessage.blank 0 0 with kind := .address, address := some fact }

def routeMessage (fact : RouteFact) : ParsedMessage :=
  { ParsedMessage.blank 0 0 with kind := .route, route := some fact }

def linkChanges (before after : TopologySnapshot) : List ParsedMessage :=
  (after.links.entries.filter fun entry =>
      (before.links.find? entry.1).elim true (linkDiffers · entry.2)).map
    (fun entry => linkMessage entry.2) ++
  (before.links.entries.filter fun entry => !after.links.contains entry.1).map
    fun entry => linkMessage { entry.2 with present := false }

def addressChanges (before after : TopologySnapshot) : List ParsedMessage :=
  (after.addresses.filter fun fact => !before.addresses.any fact.same).map addressMessage ++
  (before.addresses.filter fun fact => !after.addresses.any fact.same).map
    fun fact => addressMessage { fact with present := false }

def routeChanges (before after : TopologySnapshot) : List ParsedMessage :=
  (after.routes.filter fun fact =>
      !before.routes.any fun old => old.identity == fact.identity).map routeMessage ++
  (before.routes.filter fun fact =>
      !after.routes.any fun current => current.identity == fact.identity).map
    fun fact => routeMessage { fact with present := false }

def uplinkChanged (before after : TopologySnapshot) : Bool :=
  let old := UplinkPolicy.select before
  let new := UplinkPolicy.select after
  after.authoritative || old.methodFlags != new.methodFlags || old.validity != new.validity ||
    interfacesDiffer old.interface new.interface

def publishUplink (c : NetlinkCollector) (uplink : UplinkSelection) :
    NetlinkCollector × Option String :=
  emit c
    (header clock c .uplinkObservation uplink.interface uplink.validity
      (some ⟨.policyEvidence, uplink.evidence⟩))
    (.uplink ⟨uplink.interface.elim [] InterfaceId.observedName, uplink.methodFlags,
      uplink.interface.isSome, uplink.evidence⟩)

def publishChanges (c : NetlinkCollector) (before after : TopologySnapshot) :
    NetlinkCollector × Option String :=
  match publishAll clock c
      (linkChanges before after ++ addressChanges before after ++ routeChanges before after) with
  | (c, some text) => (c, some text)
  | (c, none) =>
    if uplinkChanged before after then publishUplink clock c (UplinkPolicy.select after)
    else (c, none)
end Publish

def degrade (s : TopologySnapshot) : TopologySnapshot :=
  if s.authoritative then { s with degraded := true } else s

def markReconciliationFailed (c : NetlinkCollector) : NetlinkCollector :=
  { c with
    state := degrade c.state
    telemetry := { c.telemetry with
      failedDumps := c.telemetry.failedDumps + 1
      degraded := true
      lastError := if c.telemetry.lastError = "" then "reconciliation_failed"
        else c.telemetry.lastError } }

def markNotificationRace (c : NetlinkCollector) : NetlinkCollector :=
  { c with
    state := degrade c.state
    telemetry := { c.telemetry.forceResync "notification_raced_reconciliation" with
      reconciliationRaces := c.telemetry.reconciliationRaces + 1 } }

def markOverflow (c : NetlinkCollector) : NetlinkCollector :=
  { c with
    state := degrade c.state
    telemetry := { c.telemetry.forceResync "netlink_receive_overflow" with
      overflowEvents := c.telemetry.overflowEvents + 1 } }

variable (clock : ℕ → RealtimeTime × MonotonicTime)
def install (c : NetlinkCollector) (after : TopologySnapshot) :
    NetlinkCollector × Option String :=
  let before := c.state
  let uplink := UplinkPolicy.select after
  match publishChanges clock { c with state := after, selected := uplink } before after with
  | (c, some text) => (c, some text)
  | (c, none) => ({ c with committed := c.committed ++ [(after, uplink)] }, none)

def commitReconciliation (c : NetlinkCollector) (candidate : TopologySnapshot) :
    NetlinkCollector × Option String :=
  match install clock c { candidate with
      authoritative := true
      partly := false
      degraded := false
      generation := c.state.generation + 1 } with
  | (c, some text) => (c, some text)
  | (c, none) => ({ c with telemetry := { c.telemetry with
      successfulReconciliations := c.telemetry.successfulReconciliations + 1
      degraded := false
      lastError := "" } }, none)

def isFact (message : ParsedMessage) : Bool :=
  message.kind == .link || message.kind == .address || message.kind == .route

def refuseBatch (c : NetlinkCollector) (text : String) : NetlinkCollector :=
  { c with telemetry := { c.telemetry.forceResync text with
      notificationApplyFailures := c.telemetry.notificationApplyFailures + 1 } }

def refuseFailure (c : NetlinkCollector) (failure : TopologyApplyResult) : NetlinkCollector :=
  if failure = .ambiguousDelete then
    let refused := c.refuseBatch "ambiguous_route_delete"
    { refused with telemetry := { refused.telemetry with
        ambiguousRouteDeletes := c.telemetry.ambiguousRouteDeletes + 1 } }
  else c.refuseBatch "notification_apply_failed"

def countProcessed (c : NetlinkCollector) (count : ℕ) : NetlinkCollector :=
  { c with telemetry := { c.telemetry with
      notificationsProcessed := c.telemetry.notificationsProcessed + count } }

def processNotificationBatch (c : NetlinkCollector) (messages : List ParsedMessage) :
    NetlinkCollector × Except String Bool :=
  if messages = [] then (c, .ok true)
  else if messages.all isFact then
    match applyBatch c.state messages with
    | .error failure => (c.refuseFailure failure, .ok false)
    | .ok (_, false) => (c.countProcessed messages.length, .ok true)
    | .ok (after, true) =>
      match install clock c
          { after with degraded := false, generation := c.state.generation + 1 } with
      | (c, some text) => (c, .error text)
      | (c, none) => (c.countProcessed messages.length, .ok true)
  else (c.refuseBatch "unsupported_netlink_notification", .ok false)

def rejected (parsed : ParseResult) : Bool :=
  parsed.malformed || parsed.truncated || parsed.error != ""

inductive DumpEvent where
  | idle
  | failed
  | overflow
  | truncated
  | datagram (sender : ℕ) (bytes : ByteString)

structure DumpReplies where
  sent : Bool
  sequence : ℕ
  events : List DumpEvent

structure DumpState where
  collector : NetlinkCollector
  candidate : TopologySnapshot
  raced : Bool
  complete : Bool

/-- One message of a dump reply; `.error` returns false from the dump. -/
def dumpMessage (d : DumpState) (item : ParsedMessage) : Except DumpState DumpState :=
  if item.sequence = 0 ∧ isFact item then
    .ok { d with
      raced := true
      collector := { d.collector with telemetry := { d.collector.telemetry with
        notificationsObservedDuringReconciliation :=
          d.collector.telemetry.notificationsObservedDuringReconciliation + 1 } } }
  else if item.kind = .error ∧ item.errorCode ≠ 0 then .error d
  else if item.kind = .done then
    if item.dumpInterrupted then
      .error { d with collector := { d.collector with telemetry := { d.collector.telemetry with
        interruptedDumps := d.collector.telemetry.interruptedDumps + 1 } } }
    else .ok { d with complete := true }
  else if isFact item then
    let result := applyChecked d.candidate item
    if result.2.applied then .ok { d with candidate := result.1 } else .error d
  else .ok d

def dumpLoop (sequence : ℕ) : List DumpEvent → DumpState → DumpState × Bool
  | [], d => (d, false)
  | .idle :: events, d => dumpLoop sequence events d
  | .failed :: _, d => (d, false)
  | .overflow :: _, d => ({ d with collector := d.collector.markOverflow }, false)
  | .truncated :: _, d =>
    ({ d with collector := { d.collector with telemetry :=
        { d.collector.telemetry.forceResync "netlink_datagram_truncated" with
          truncations := d.collector.telemetry.truncations + 1 } } }, false)
  | .datagram sender bytes :: events, d =>
    let parsed := RtnetlinkParser.parse bytes sender (some sequence) d.collector.netns
    if rejected parsed then
      ({ d with collector := { d.collector with telemetry := { d.collector.telemetry with
          parseErrors := d.collector.telemetry.parseErrors + 1
          lastError := parsed.error } } }, false)
    else match parsed.messages.foldlM dumpMessage d with
      | .error stopped => (stopped, false)
      | .ok next => if next.complete then (next, true) else dumpLoop sequence events next

def dump (replies : DumpReplies) (d : DumpState) : DumpState × Bool :=
  if replies.sent then dumpLoop replies.sequence replies.events { d with complete := false }
  else (d, false)

def dumpAll : List DumpReplies → DumpState → DumpState × Bool
  | [], d => (d, true)
  | replies :: rest, d =>
    match dump replies d with
    | (d, true) => dumpAll rest d
    | (d, false) => (d, false)

/-- Where a reconciliation gets its candidate: the test hook, or the link, address, IPv4 route
and IPv6 route dumps. -/
inductive ReconcileSource where
  | hook (result : Option TopologySnapshot)
  | dumps (links addresses routes4 routes6 : DumpReplies)

def gather (c : NetlinkCollector) : ReconcileSource → NetlinkCollector × Option TopologySnapshot
  | .hook none => (c.markReconciliationFailed, none)
  | .hook (some result) => (c, some { result with netns := c.netns })
  | .dumps links addresses routes4 routes6 =>
    match dumpAll [links, addresses, routes4, routes6] ⟨c, .blank c.netns, false, false⟩ with
    | (d, false) =>
      let failed := d.collector.markReconciliationFailed
      (if d.raced then failed.markNotificationRace else failed, none)
    | (d, true) =>
      if d.raced then (d.collector.markNotificationRace, none)
      else (d.collector, some d.candidate)

def fullReconcile (c : NetlinkCollector) (source : ReconcileSource) :
    NetlinkCollector × Except String Bool :=
  match gather c source with
  | (c, none) => (c, .ok false)
  | (c, some candidate) =>
    match commitReconciliation clock c candidate with
    | (c, some text) => (c, .error text)
    | (c, none) => (c, .ok true)

inductive Op where
  | reconcile (scheduled : Bool) (source : ReconcileSource)
  | overflow
  | truncated
  | datagram (sender : ℕ) (bytes : ByteString)
  | notificationForTests (bytes : ByteString)

def refuseDatagram (c : NetlinkCollector) (parsed : ParseResult) (fallback : String) :
    NetlinkCollector :=
  { c with telemetry :=
      { c.telemetry.forceResync (if parsed.error = "" then fallback else parsed.error) with
        parseErrors := c.telemetry.parseErrors + 1
        notificationApplyFailures := c.telemetry.notificationApplyFailures + 1 } }

def refuseTruncated (c : NetlinkCollector) : NetlinkCollector :=
  { c with telemetry := { c.telemetry.forceResync "netlink_datagram_truncated" with
      truncations := c.telemetry.truncations + 1
      notificationApplyFailures := c.telemetry.notificationApplyFailures + 1 } }

def isNotification (message : ParsedMessage) : Bool :=
  message.kind == .notification || isFact message

def receiveDatagram (c : NetlinkCollector) (sender : ℕ) (bytes : ByteString) : NetlinkCollector :=
  let parsed := RtnetlinkParser.parse bytes sender none c.netns
  if rejected parsed then c.refuseDatagram parsed "netlink_parse_failed"
  else (processNotificationBatch clock c (parsed.messages.filter isNotification)).1

def processNotificationForTests (c : NetlinkCollector) (bytes : ByteString) : NetlinkCollector :=
  let parsed := RtnetlinkParser.parse bytes 0 none c.netns
  if rejected parsed then c.refuseDatagram parsed "notification_parse_failed"
  else (processNotificationBatch clock c parsed.messages).1

def countResync (c : NetlinkCollector) : NetlinkCollector :=
  { c with telemetry := { c.telemetry with resyncRequests := c.telemetry.resyncRequests + 1 } }

def step (c : NetlinkCollector) : Op → NetlinkCollector
  | .reconcile scheduled source =>
    (fullReconcile clock (if scheduled then c.countResync else c) source).1
  | .overflow => c.markOverflow
  | .truncated => c.refuseTruncated
  | .datagram sender bytes => c.receiveDatagram clock sender bytes
  | .notificationForTests bytes => c.processNotificationForTests clock bytes
end NetlinkCollector
end WeakNet
