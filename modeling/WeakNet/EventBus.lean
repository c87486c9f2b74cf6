import WeakNet.NetworkEvent
import Mathlib.Algebra.BigOperators.Fin

/-! The bounded queue behind `EventBus`, one transition for each section that runs under
`queue_mutex`. Any interleaving is a list of these; a section whose thread is not at that point, or
whose wait condition does not hold, leaves the bus as it is. `nextSequence` is kept before its
truncation to 64 bits, and the guard of `publish` tests the truncated value. -/

namespace WeakNet
open Finset

namespace EventKind
def index : EventKind → Fin 18
  | .linkObservation => 0
  | .addressObservation => 1
  | .routeObservation => 2
  | .interfaceObservation => 3
  | .uplinkObservation => 4
  | .probeRttMetric => 5
  | .tcpLossMetric => 6
  | .trafficMetric => 7
  | .wifiRssiMetric => 8
  | .collectorHealth => 9
  | .socketObservation => 10
  | .tcpInfoObservation => 11
  | .tcpIntervalMetric => 12
  | .socketRouteObservation => 13
  | .incidentObservation => 14
  | .rootCauseHypothesisObservation => 15
  | .probeObservation => 16
  | .wifiObservation => 17

def replaceable : EventKind → Bool
  | .probeRttMetric | .tcpLossMetric | .trafficMetric | .wifiRssiMetric => true
  | _ => false
end EventKind

def EventSource.index : EventSource → Fin 13
  | .netlinkCollector => 0
  | .v1InterfaceSnapshot => 1
  | .v1UplinkMonitor => 2
  | .v1RttMonitor => 3
  | .v1TcpLossMonitor => 4
  | .v1TrafficMonitor => 5
  | .v1WifiMonitor => 6
  | .runtime => 7
  | .socketTracker => 8
  | .incidentEngine => 9
  | .rootCauseEngine => 10
  | .activeProbe => 11
  | .wifiCollector => 12

namespace NetworkEvent
def replaceable (event : NetworkEvent) : Bool := event.header.kind.replaceable

def sequence (event : NetworkEvent) : ℕ := event.header.sequence

def interfaceText : Option InterfaceId → List Char
  | some interface => 'i' :: Nat.toDigits 10 interface.ifindex
  | none => ['i', '-']

def socketText : Option SocketId → List Char
  | some id =>
    's' :: Nat.toDigits 10 id.netns.device ++ ':' :: Nat.toDigits 10 id.netns.inode ++
      ':' :: id.cookie.elim ['-'] (Nat.toDigits 10) ++ ':' :: Nat.toDigits 10 id.generation
  | none => ['s', '-']

def coalescingKey (event : NetworkEvent) : List Char :=
  if event.replaceable then
    Nat.toDigits 10 event.header.kind.index ++ ':' :: Nat.toDigits 10 event.header.source.index ++
      ':' :: Nat.toDigits 10 event.header.netns.device ++
      ':' :: Nat.toDigits 10 event.header.netns.inode ++
      ':' :: interfaceText event.header.interface ++ ':' :: socketText event.header.socket
  else []

theorem constructorError_sequence (header : NetworkEventHeader) (payload : NetworkEventPayload)
    (s : ℕ) : constructorError { header with sequence := s } payload =
      constructorError header payload := by
  cases payload <;> rfl

def withSequence (event : NetworkEvent) (s : ℕ) : NetworkEvent :=
  ⟨{ event.header with sequence := s }, event.payload,
    (constructorError_sequence event.header event.payload s).trans event.accepted⟩

@[simp] theorem withSequence_sequence (event : NetworkEvent) (s : ℕ) :
    (event.withSequence s).sequence = s := rfl
end NetworkEvent

def bump {n : ℕ} (counters : Fin n → ℕ) (i : Fin n) : Fin n → ℕ :=
  Function.update counters i (counters i + 1)

theorem sum_bump {n : ℕ} (counters : Fin n → ℕ) (i : Fin n) :
    ∑ j, bump counters i j = ∑ j, counters j + 1 := by
  have hsplit := add_sum_erase Finset.univ counters (mem_univ i)
  have hbump := add_sum_erase Finset.univ (bump counters i) (mem_univ i)
  have hother : ∑ j ∈ Finset.univ.erase i, bump counters i j =
      ∑ j ∈ Finset.univ.erase i, counters j := by
    apply sum_congr rfl
    intro j hj
    exact Function.update_of_ne (ne_of_mem_erase hj) _ _
  have hself : bump counters i i = counters i + 1 := Function.update_self ..
  omega

structure EventBusTelemetry where
  queueCapacity : ℕ
  queueDepth : ℕ
  highWaterMark : ℕ
  acceptedPublications : ℕ
  dispatchedPublications : ℕ
  totalDrops : ℕ
  totalCoalesces : ℕ
  callbackFailures : ℕ
  acceptedByKind : Fin 18 → ℕ
  droppedByKind : Fin 18 → ℕ
  acceptedBySource : Fin 13 → ℕ

structure PublishResult where
  accepted : Bool
  coalesced : Bool
  sequence : ℕ
deriving DecidableEq

def PublishResult.rejected : PublishResult := ⟨false, false, 0⟩

/-- Where the dispatcher thread stands in `dispatchLoop`. -/
inductive DispatchPhase where
  | absent
  | waiting
  | delivering (event : NetworkEvent)
  | leaving
  | exited

structure EventBus where
  capacity : ℕ
  capacity_pos : 0 < capacity
  queue : List NetworkEvent
  counters : EventBusTelemetry
  nextSequence : ℕ
  started : Bool
  stopping : Bool
  stopped : Bool
  joinClaimed : Bool
  joined : Bool
  dispatcher : DispatchPhase

namespace EventBus

def create (capacity : ℕ) (h : 0 < capacity) : EventBus where
  capacity := capacity
  capacity_pos := h
  queue := []
  counters := ⟨capacity, 0, 0, 0, 0, 0, 0, 0, 0, 0, 0⟩
  nextSequence := 1
  started := false
  stopping := false
  stopped := false
  joinClaimed := false
  joined := false
  dispatcher := .absent

def start (bus : EventBus) : EventBus × Bool :=
  if bus.started ∧ ¬bus.stopping then (bus, true)
  else if bus.started ∨ bus.stopped then (bus, false)
  else ({ bus with started := true, dispatcher := .waiting }, true)

/-- The first section of `stop`. The thread that claims the join goes on to `joinDispatcher`,
a later one waits for `joined`, and the dispatcher itself only asks for the stop. -/
def stop (bus : EventBus) (fromDispatcher : Bool) : EventBus :=
  if !bus.started ∨ bus.joined then bus
  else if fromDispatcher ∨ bus.joinClaimed then { bus with stopping := true }
  else { bus with stopping := true, joinClaimed := true }

def joinDispatcher (bus : EventBus) : EventBus :=
  match bus.dispatcher with
  | .exited => if bus.joinClaimed then { bus with joined := true } else bus
  | _ => bus

def drop (bus : EventBus) (event : NetworkEvent) : EventBus :=
  { bus with counters := { bus.counters with
      totalDrops := bus.counters.totalDrops + 1
      droppedByKind := bump bus.counters.droppedByKind event.header.kind.index } }

def enqueue (bus : EventBus) (event : NetworkEvent) : EventBus :=
  let queue := bus.queue ++ [event.withSequence bus.nextSequence]
  { bus with
    queue := queue
    nextSequence := bus.nextSequence + 1
    counters := { bus.counters with
      acceptedPublications := bus.counters.acceptedPublications + 1
      acceptedByKind := bump bus.counters.acceptedByKind event.header.kind.index
      acceptedBySource := bump bus.counters.acceptedBySource event.header.source.index
      highWaterMark := max bus.counters.highWaterMark queue.length } }

def existing (bus : EventBus) (event : NetworkEvent) : Option ℕ :=
  if event.replaceable then
    bus.queue.findIdx? (fun queued =>
      queued.replaceable && queued.coalescingKey == event.coalescingKey)
  else none

def coalesce (bus : EventBus) (i : ℕ) : EventBus :=
  { bus with
    queue := bus.queue.eraseIdx i
    counters := { bus.counters with totalCoalesces := bus.counters.totalCoalesces + 1 } }

def refuses (bus : EventBus) : Bool :=
  !bus.started || bus.stopping || bus.stopped || bus.nextSequence % 2 ^ 64 == 0

def publish (bus : EventBus) (event : NetworkEvent) : EventBus × PublishResult :=
  if bus.refuses then (bus.drop event, .rejected)
  else if bus.queue.length = bus.capacity then
    match bus.existing event with
    | some i => ((bus.coalesce i).enqueue event, ⟨true, true, bus.nextSequence⟩)
    | none => (bus.drop event, .rejected)
  else (bus.enqueue event, ⟨true, false, bus.nextSequence⟩)

/-- The first section of a turn of the loop: wait for an event or the stop, leave the loop
when the queue is empty, and otherwise pop the oldest event. -/
def take (bus : EventBus) : EventBus :=
  match bus.dispatcher with
  | .waiting =>
    match bus.queue with
    | event :: rest => { bus with queue := rest, dispatcher := .delivering event }
    | [] => if bus.stopping then { bus with dispatcher := .leaving } else bus
  | _ => bus

def callbackFailed (bus : EventBus) : EventBus :=
  match bus.dispatcher with
  | .delivering _ => { bus with counters := { bus.counters with
      callbackFailures := bus.counters.callbackFailures + 1 } }
  | _ => bus

def complete (bus : EventBus) : EventBus :=
  match bus.dispatcher with
  | .delivering _ =>
    { bus with
      dispatcher := .waiting
      counters := { bus.counters with
        dispatchedPublications := bus.counters.dispatchedPublications + 1 } }
  | _ => bus

def leave (bus : EventBus) : EventBus :=
  match bus.dispatcher with
  | .leaving => { bus with stopped := true, dispatcher := .exited }
  | _ => bus

def telemetry (bus : EventBus) : EventBusTelemetry :=
  { bus.counters with queueDepth := bus.queue.length }

def running (bus : EventBus) : Bool := bus.started && !bus.stopping && !bus.stopped

def inFlight (bus : EventBus) : ℕ :=
  match bus.dispatcher with
  | .delivering _ => 1
  | _ => 0

inductive Op where
  | start
  | stop (fromDispatcher : Bool)
  | joinDispatcher
  | publish (event : NetworkEvent)
  | take
  | callbackFailed
  | complete
  | leave

def step (bus : EventBus) : Op → EventBus
  | .start => bus.start.1
  | .stop fromDispatcher => bus.stop fromDispatcher
  | .joinDispatcher => bus.joinDispatcher
  | .publish event => (bus.publish event).1
  | .take => bus.take
  | .callbackFailed => bus.callbackFailed
  | .complete => bus.complete
  | .leave => bus.leave
end EventBus
end WeakNet
