import WeakNet.Foundation.Runs
import WeakNet.NetlinkTopology
import WeakNet.WifiNl80211Parser

/-! `WifiCollector::refresh` and `updateTopology`, one operation for each section under the lock.
The answer of a query is an argument. The worker makes one refresh at a time, and an operation that
is not its next one does nothing. -/

namespace WeakNet
open Foundation Foundation.Runs

structure WifiCollectorTelemetry where
  queryAttempts : ℕ
  successfulObservations : ℕ
  notWifiResults : ℕ
  notAssociatedResults : ℕ
  unsupportedResults : ℕ
  permissionFailures : ℕ
  malformedReplies : ℕ
  timeouts : ℕ
  transportErrors : ℕ
  noTargetResults : ℕ
  lastSuccessAt : Option RealtimeTime
  degraded : Bool
  capabilityReason : String
deriving DecidableEq

def WifiCollectorTelemetry.blank : WifiCollectorTelemetry :=
  ⟨0, 0, 0, 0, 0, 0, 0, 0, 0, 0, none, false, ""⟩

namespace WifiCollector
def capabilityReason : WifiCapability → String
  | .available => "available"
  | .notWifi => "selected interface is not a supported Wi-Fi client"
  | .notAssociated => "no station entry is present"
  | .unsupported => "nl80211 or driver field unsupported"
  | .permissionDenied => "permission denied by nl80211 transport"
  | .transportUnavailable => "Generic Netlink transport unavailable"
  | .error => "nl80211 query failed"
  | .noTarget => "authoritative Wi-Fi target unavailable"

def validityFor : WifiCapability → Validity
  | .available | .notWifi | .notAssociated | .unsupported => .partly
  | .noTarget | .transportUnavailable | .permissionDenied | .error => .unavailable

structure QueryResult where
  observation : WifiObservation
  transportStatus : WifiParseStatus

inductive Phase where
  | idle
  | reading (target : InterfaceId) (generation : ℕ)
  | querying (target : InterfaceId) (generation : ℕ)
  | answered (observation : WifiObservation)
deriving DecidableEq
end WifiCollector

structure WifiCollector where
  netns : NetnsId
  target : Option InterfaceId
  targetGeneration : ℕ
  latest : Option WifiObservation
  telemetry : WifiCollectorTelemetry
  phase : WifiCollector.Phase
deriving DecidableEq

namespace WifiCollector
def create (netns : NetnsId) : WifiCollector :=
  ⟨netns, none, 0, none, .blank, .idle⟩

/-- `std::optional` of interfaces, which compare by their index. -/
def sameTarget (a b : Option InterfaceId) : Bool := a.map (·.ifindex) == b.map (·.ifindex)

def nextTarget (snapshot : TopologySnapshot) (uplink : UplinkSelection) : Option InterfaceId :=
  if snapshot.authoritative && uplink.validity != .unavailable then uplink.interface else none

def updateTopology (c : WifiCollector) (snapshot : TopologySnapshot) (uplink : UplinkSelection) :
    WifiCollector :=
  let next := nextTarget snapshot uplink
  { c with
    latest := if !sameTarget c.target next || c.targetGeneration != snapshot.generation then none
      else c.latest
    target := next
    targetGeneration := snapshot.generation }

def noTargetObservation (netns : NetnsId) (generation : ℕ) : WifiObservation where
  netns := netns
  interface := none
  interfaceGeneration := generation
  linkState := .unknown
  capability := .noTarget
  nl80211Iftype := none
  bssid := none
  ssid := none
  frequencyMhz := none
  signalDbm := none
  signalAvgDbm := none
  txBitrateKbps := none
  rxBitrateKbps := none
  txRetries := none
  txFailed := none
  rxPackets := none
  txPackets := none
  rxBytes := none
  txBytes := none
  observedAt := 0
  monotonicAt := 0
  source := .wifiCollector
  validity := .unavailable
  status := capabilityReason .noTarget

def readTarget (c : WifiCollector) : WifiCollector :=
  match c.phase with
  | .idle => { c with phase := match c.target with
      | none => .answered (noTargetObservation c.netns c.targetGeneration)
      | some target => .reading target c.targetGeneration }
  | _ => c

def countAttempt (c : WifiCollector) : WifiCollector :=
  match c.phase with
  | .reading target generation => { c with
      telemetry := { c.telemetry with queryAttempts := c.telemetry.queryAttempts + 1 }
      phase := .querying target generation }
  | _ => c

def countTransport (t : WifiCollectorTelemetry) : WifiParseStatus → WifiCollectorTelemetry
  | .timeout => { t with timeouts := t.timeouts + 1 }
  | .malformed | .truncated => { t with malformedReplies := t.malformedReplies + 1 }
  | .wrongSequence | .wrongSender | .errorReply =>
    { t with transportErrors := t.transportErrors + 1 }
  | .ok | .done | .notFound => t

def attributed (netns : NetnsId) (target : InterfaceId) (generation : ℕ)
    (observation : WifiObservation) : WifiObservation :=
  { observation with
    netns := netns
    interface := some target
    interfaceGeneration := generation
    source := .wifiCollector
    status := if observation.status = "" then capabilityReason observation.capability
      else observation.status }

def receiveAnswer (c : WifiCollector) (result : QueryResult) : WifiCollector :=
  match c.phase with
  | .querying target generation => { c with
      telemetry := countTransport c.telemetry result.transportStatus
      phase := .answered (attributed c.netns target generation result.observation) }
  | _ => c

def countObservation (t : WifiCollectorTelemetry) (o : WifiObservation) :
    WifiCollectorTelemetry :=
  match o.capability with
  | .available => { t with
      successfulObservations := t.successfulObservations + 1
      lastSuccessAt := some o.observedAt }
  | .notWifi => { t with notWifiResults := t.notWifiResults + 1 }
  | .notAssociated => { t with notAssociatedResults := t.notAssociatedResults + 1 }
  | .unsupported => { t with unsupportedResults := t.unsupportedResults + 1 }
  | .permissionDenied => { t with permissionFailures := t.permissionFailures + 1 }
  | .transportUnavailable | .error => { t with transportErrors := t.transportErrors + 1 }
  | .noTarget => { t with noTargetResults := t.noTargetResults + 1 }

def completed (o : WifiObservation) (realtime : RealtimeTime) (monotonic : MonotonicTime) :
    WifiObservation :=
  { o with
    observedAt := realtime
    monotonicAt := monotonic
    source := .wifiCollector
    validity := validityFor o.capability }

def record (c : WifiCollector) (realtime : RealtimeTime) (monotonic : MonotonicTime) :
    WifiCollector :=
  match c.phase with
  | .answered observation =>
    let o := completed observation realtime monotonic
    let counted := countObservation c.telemetry o
    { c with
      latest := some o
      telemetry := { counted with
        degraded := if o.capability = .available then counted.degraded
          else o.capability != .notWifi
        capabilityReason := o.status }
      phase := .idle }
  | _ => c

inductive Op where
  | updateTopology (snapshot : TopologySnapshot) (uplink : UplinkSelection)
  | readTarget
  | countAttempt
  | receiveAnswer (result : QueryResult)
  | record (realtime : RealtimeTime) (monotonic : MonotonicTime)

def step (c : WifiCollector) : Op → WifiCollector
  | .updateTopology snapshot uplink => c.updateTopology snapshot uplink
  | .readTarget => c.readTarget
  | .countAttempt => c.countAttempt
  | .receiveAnswer result => c.receiveAnswer result
  | .record realtime monotonic => c.record realtime monotonic

def About (c : WifiCollector) (o : WifiObservation) : Prop :=
  sameTarget o.interface c.target = true ∧ o.interfaceGeneration = c.targetGeneration

instance (c : WifiCollector) (o : WifiObservation) : Decidable (About c o) :=
  inferInstanceAs (Decidable (_ ∧ _))

def Underway (c : WifiCollector) : Prop :=
  match c.phase with
  | .idle | .reading _ _ => False
  | .querying _ _ | .answered _ => True

def Current (c : WifiCollector) : Prop := ¬ c.Underway → ∀ o ∈ c.latest, About c o

def Covered (c : WifiCollector) : Op → Prop
  | .record _ _ => ∀ o, c.phase = .answered o → About c o
  | _ => True

variable {c : WifiCollector}
theorem updateTopology_about (snapshot : TopologySnapshot) (uplink : UplinkSelection)
    {o : WifiObservation} (hlatest : (c.updateTopology snapshot uplink).latest = some o) :
    c.latest = some o ∧ (About c o → About (c.updateTopology snapshot uplink) o) := by
  rw [updateTopology] at hlatest
  split_ifs at hlatest with hchanged
  simp only [Bool.or_eq_true, Bool.not_eq_true', bne_iff_ne, ne_eq, not_or, Bool.not_eq_false,
    not_not] at hchanged
  refine ⟨hlatest, fun habout => ⟨?_, habout.2.trans hchanged.2⟩⟩
  have hsame : o.interface.map (·.ifindex) = c.target.map (·.ifindex) := beq_iff_eq.mp habout.1
  have hkept : c.target.map (·.ifindex) = (nextTarget snapshot uplink).map (·.ifindex) :=
    beq_iff_eq.mp hchanged.1
  exact beq_iff_eq.mpr (hsame.trans hkept)

theorem record_current_iff (h : Current c) (realtime : RealtimeTime) (monotonic : MonotonicTime) :
    Current (c.record realtime monotonic) ↔ Covered c (.record realtime monotonic) := by
  rw [record]
  cases hphase : c.phase with
  | idle | reading | querying =>
    exact ⟨fun _ o hanswered => absurd (hphase.symm.trans hanswered) nofun, fun _ => h⟩
  | answered observation =>
    refine ⟨fun hcurrent o hanswered => ?_, fun hcovered _ o hlatest => ?_⟩
    · cases hphase.symm.trans hanswered
      exact hcurrent id (completed observation realtime monotonic) rfl
    · cases hlatest
      exact hcovered observation hphase

theorem Current.moved {c' : WifiCollector} (h : Current c) (hlatest : c'.latest = c.latest)
    (htarget : c'.target = c.target) (hgeneration : c'.targetGeneration = c.targetGeneration)
    (hunderway : c.Underway → c'.Underway) : Current c' := by
  intro hidle o ho
  rw [hlatest] at ho
  have habout := h (fun hunder => hidle (hunderway hunder)) o ho
  exact ⟨htarget ▸ habout.1, hgeneration ▸ habout.2⟩

theorem step_current_iff (h : Current c) (op : Op) : Current (c.step op) ↔ Covered c op := by
  cases op with
  | record realtime monotonic => exact record_current_iff h realtime monotonic
  | updateTopology snapshot uplink =>
    refine ⟨fun _ => trivial, fun _ hidle o ho => ?_⟩
    obtain ⟨hlatest, habout⟩ := updateTopology_about snapshot uplink ho
    exact habout (h hidle o hlatest)
  | readTarget =>
    refine ⟨fun _ => trivial, fun _ => ?_⟩
    rw [step, readTarget]
    cases hphase : c.phase with
    | idle =>
      refine h.moved rfl rfl rfl fun hunder => ?_
      rw [Underway, hphase] at hunder
      exact hunder.elim
    | _ => exact h
  | countAttempt =>
    refine ⟨fun _ => trivial, fun _ => ?_⟩
    rw [step, countAttempt]
    cases hphase : c.phase with
    | reading => exact h.moved rfl rfl rfl fun _ => trivial
    | _ => exact h
  | receiveAnswer =>
    refine ⟨fun _ => trivial, fun _ => ?_⟩
    rw [step, receiveAnswer]
    cases hphase : c.phase with
    | querying => exact h.moved rfl rfl rfl fun _ => trivial
    | _ => exact h

/-- The latest observation is about the current target throughout a run exactly when each refresh
records while its target is still the current one. -/
theorem latest_current_iff (netns : NetnsId) (ops : List Op) :
    AllStates step Current (create netns) ops ↔ AllSteps step Covered (create netns) ops := by
  have hguard : AllSteps step (fun _ _ => True) (create netns) ops :=
    allSteps_of_invariant (P := fun _ => True) (fun _ _ _ => trivial) (fun _ _ _ => trivial)
      trivial ops
  refine allStates_iff_allSteps (fun c op hcurrent _ => step_current_iff hcurrent op) ?_ hguard
  exact fun _ o ho => absurd ho nofun

section Sample
def uplinkOn (ifindex : ℕ) : UplinkSelection := ⟨some ⟨ifindex, []⟩, 1, .valid, ""⟩

def sampleTopology (generation : ℕ) : TopologySnapshot :=
  { TopologySnapshot.blank ⟨4, 1⟩ with authoritative := true, generation := generation }

def sampleAnswer : QueryResult :=
  ⟨{ noTargetObservation ⟨4, 1⟩ 0 with
      capability := .available
      linkState := .associated
      signalDbm := some (-61)
      status := "" }, .ok⟩

def overtaken : List Op :=
  [.updateTopology (sampleTopology 1) (uplinkOn 3), .readTarget, .countAttempt,
    .updateTopology (sampleTopology 2) (uplinkOn 4), .receiveAnswer sampleAnswer, .record 1 1]

/-- The answer for interface 3 is the latest observation although the target is interface 4. -/
theorem old_interface_recorded :
    let c := run step (create ⟨4, 1⟩) overtaken
    c.phase = .idle ∧ c.target = some ⟨4, []⟩ ∧
      c.latest.map (fun o => (o.interface, o.interfaceGeneration)) = some (some ⟨3, []⟩, 1) := by
  decide +kernel
end Sample
end WifiCollector
end WeakNet
