import WeakNet.DiagnosticsQuery

/-! `DiagnosticsQueryService::getDiagnosisSnapshot` reads its components one after another, each
once for the status and once for the contents, and other threads run between the reads. A placement
gives what the daemon does before each read. -/

namespace WeakNet
open Foundation Foundation.Runs List

structure DiagnosisSnapshot where
  status : StatusSnapshot
  incidents : List IncidentObservation
  hypotheses : List RootCauseHypothesisObservation
  topology : TopologySnapshot
  limitations : List String

namespace DiagnosticsQueryService
inductive Read where
  | topology | selectedUplink | health | incidentCount | hypothesisCount | incidentsRunning
  | rootCausesRunning | degraded | incidents | hypotheses | topologyAgain
deriving DecidableEq

def listActiveIncidents (q : DiagnosticsQueryService) : List IncidentObservation :=
  q.incidents.listActiveIncidents.insertionSort fun a b => a.id ≤ b.id

def listRootCauses (q : DiagnosticsQueryService) : List RootCauseHypothesisObservation :=
  q.rootCauses.listActiveHypotheses.insertionSort fun a b =>
    [a.id.type.code, a.id.occurrence] ≤ [b.id.type.code, b.id.occurrence]

/-- `getStatusSnapshot` where each read sees a state of its own. -/
def readStatus (seen : Read → DiagnosticsQueryService) (timestampMs : ℕ) : StatusSnapshot :=
  let topology := (seen .topology).topology.state
  let topologyDegraded := topology.degraded || topology.partly
  let activeIncidents := (seen .incidentCount).incidents.listActiveIncidents.length
  let activeHypotheses := (seen .hypothesisCount).rootCauses.listActiveHypotheses.length
  let runtimeUnknown := !(seen .incidentsRunning).incidentsRunning ||
    !(seen .rootCausesRunning).rootCausesRunning || !topology.authoritative
  let runtimeDegraded := (seen .degraded).health.degraded || topologyDegraded ||
    activeIncidents != 0 || activeHypotheses != 0
  { state := if runtimeUnknown then .unknown else if runtimeDegraded then .degraded else .healthy
    topologyAuthoritative := topology.authoritative
    topologyDegraded := topologyDegraded
    socketTrackerDegraded := socketTrackerDegraded (seen .health).health.snapshot
    runtimeDegraded := (seen .degraded).health.degraded
    activeIncidents := activeIncidents
    activeHypotheses := activeHypotheses
    uplink := (seen .selectedUplink).topology.selected
    timestampMs := timestampMs }

def limitations (topology : TopologySnapshot) : List String :=
  (if topology.authoritative then [] else ["authoritative topology unavailable"]) ++
    (if topology.degraded || topology.partly then ["topology collector degraded or partial"]
      else []) ++
    ["active-probe evidence is freshness-bounded and target-specific"]

def getDiagnosisSnapshot (seen : Read → DiagnosticsQueryService) (timestampMs : ℕ) :
    DiagnosisSnapshot :=
  let topology := (seen .topologyAgain).topology.state
  { status := readStatus seen timestampMs
    incidents := (seen .incidents).listActiveIncidents
    hypotheses := (seen .hypotheses).listRootCauses
    topology := topology
    limitations := limitations topology }
end DiagnosticsQueryService

namespace Daemon
open DiagnosticsQueryService

/-- What is done before each read; the number of a read is its place in the order. -/
abbrev Placement := ℕ → List Op

section Reads
variable (netlinkClock : ℕ → RealtimeTime × MonotonicTime) (clock : Clock) (d : Daemon)
  (before : Placement)
def atRead (n : ℕ) : Daemon :=
  run (step netlinkClock clock) d ((List.range (n + 1)).flatMap before)

def diagnose (timestampMs : ℕ) : DiagnosisSnapshot :=
  getDiagnosisSnapshot
    (fun r => (atRead netlinkClock clock d before r.ctorIdx).toDiagnosticsQueryService) timestampMs
end Reads

def between (before : Placement) (first last : Read) : List Op :=
  (List.range' (first.ctorIdx + 1) (last.ctorIdx - first.ctorIdx)).flatMap before

def Op.concernsIncidents : Op → Bool
  | .incidents _ => true
  | _ => false

def Op.concernsRootCauses : Op → Bool
  | .rootCauses _ => true
  | _ => false

def Op.concernsTopology : Op → Bool
  | .collector _ => true
  | _ => false

variable {netlinkClock : ℕ → RealtimeTime × MonotonicTime} {clock : Clock} {d : Daemon}
  {before : Placement}
theorem atRead_later {first last : ℕ} (h : first ≤ last) :
    atRead netlinkClock clock d before last =
      run (step netlinkClock clock) (atRead netlinkClock clock d before first)
        ((List.range' (first + 1) (last - first)).flatMap before) := by
  have hrange : List.range (last + 1) =
      List.range (first + 1) ++ List.range' (first + 1) (last - first) := by
    have happend := List.range'_append_1 (s := 0) (m := first + 1) (n := last - first)
    rw [Nat.zero_add] at happend
    rw [range_eq_range', range_eq_range', happend]
    congr 1
    omega
  rw [atRead, hrange, flatMap_append, run_append]
  rfl

variable {concerns : Op → Bool}
theorem run_rests {α : Type*} (part : Daemon → α)
    (hpart : ∀ d op, concerns op = false → part (d.step netlinkClock clock op) = part d)
    {ops : List Op} (hops : ∀ op ∈ ops, concerns op = false) (d : Daemon) :
    part (run (step netlinkClock clock) d ops) = part d := by
  induction ops generalizing d with
  | nil => rfl
  | cons op _ ih =>
    rw [run_cons, ih fun op' hop' => hops op' (mem_cons_of_mem _ hop')]
    exact hpart d op (hops op mem_cons_self)

theorem atRead_rests {α : Type*} (part : Daemon → α)
    (hpart : ∀ d op, concerns op = false → part (d.step netlinkClock clock op) = part d)
    {first last : Read} (hle : first.ctorIdx ≤ last.ctorIdx)
    (hrests : ∀ op ∈ between before first last, concerns op = false) :
    part (atRead netlinkClock clock d before last.ctorIdx) =
      part (atRead netlinkClock clock d before first.ctorIdx) := by
  rw [atRead_later hle]
  exact run_rests part hpart hrests _

theorem startTracker_frame (opened : Bool) (inet inet6 : SocketTracker.DumpSource)
    (spawned : Bool) :
    (d.startTracker clock opened inet inet6 spawned).incidents = d.incidents ∧
      (d.startTracker clock opened inet inet6 spawned).rootCauses = d.rootCauses ∧
      (d.startTracker clock opened inet inet6 spawned).topology = d.topology := by
  rw [startTracker]
  generalize d.tracker.start .. = result
  obtain ⟨tracker, outcome⟩ := result
  cases outcome with
  | threw | returned => exact ⟨rfl, rfl, rfl⟩

variable {op : Op}
theorem step_incidents (h : op.concernsIncidents = false) :
    (d.step netlinkClock clock op).incidents = d.incidents := by
  cases op with
  | incidents => cases h
  | startTracker opened inet inet6 spawned => exact (startTracker_frame opened inet inet6 spawned).1
  | _ => rfl

theorem step_rootCauses (h : op.concernsRootCauses = false) :
    (d.step netlinkClock clock op).rootCauses = d.rootCauses := by
  cases op with
  | rootCauses => cases h
  | startTracker opened inet inet6 spawned =>
    exact (startTracker_frame opened inet inet6 spawned).2.1
  | _ => rfl

theorem step_topology (h : op.concernsTopology = false) :
    (d.step netlinkClock clock op).topology = d.topology := by
  cases op with
  | collector => cases h
  | startTracker opened inet inet6 spawned =>
    exact (startTracker_frame opened inet inet6 spawned).2.2
  | _ => rfl

theorem readStatus_healthy {seen : Read → DiagnosticsQueryService} {timestampMs : ℕ}
    (h : (readStatus seen timestampMs).state = .healthy) :
    (readStatus seen timestampMs).activeIncidents = 0 ∧
      (readStatus seen timestampMs).activeHypotheses = 0 ∧
      (seen .topology).topology.state.authoritative ∧
      (seen .topology).topology.state.degraded = false ∧
      (seen .topology).topology.state.partly = false := by
  simp only [readStatus] at h ⊢
  split_ifs at h with hunknown hdegraded
  simp only [Bool.or_eq_true, Bool.not_eq_true', not_or, Bool.not_eq_false, Bool.not_eq_true,
    bne_iff_ne, ne_eq, not_not] at hunknown hdegraded
  exact ⟨hdegraded.1.2, hdegraded.2, hunknown.2, hdegraded.1.1.2.1, hdegraded.1.1.2.2⟩

variable (netlinkClock clock d before) in
/-- The status agrees with itself, and with the contents of each component that processed nothing
between its two reads. -/
theorem diagnosis_near_consistent (timestampMs : ℕ) :
    let snapshot := diagnose netlinkClock clock d before timestampMs
    (snapshot.status.state = .healthy → snapshot.status.activeIncidents = 0 ∧
        snapshot.status.activeHypotheses = 0 ∧ snapshot.status.topologyAuthoritative ∧
        snapshot.status.topologyDegraded = false) ∧
      ((∀ op ∈ between before .incidentCount .incidents, op.concernsIncidents = false) →
        snapshot.status.activeIncidents = snapshot.incidents.length ∧
          (snapshot.status.state = .healthy → snapshot.incidents = [])) ∧
      ((∀ op ∈ between before .hypothesisCount .hypotheses, op.concernsRootCauses = false) →
        snapshot.status.activeHypotheses = snapshot.hypotheses.length ∧
          (snapshot.status.state = .healthy → snapshot.hypotheses = [])) ∧
      ((∀ op ∈ between before .topology .topologyAgain, op.concernsTopology = false) →
        snapshot.status.state = .healthy → snapshot.topology.authoritative ∧
          snapshot.topology.degraded = false ∧ snapshot.topology.partly = false) := by
  intro snapshot
  have hhealthy : snapshot.status.state = .healthy → _ := readStatus_healthy
  refine ⟨fun h => ?_, fun hrests => ?_, fun hrests => ?_, fun hrests h => ?_⟩
  · obtain ⟨hincidents, hhypotheses, hauthoritative, hdegraded, hpartly⟩ := hhealthy h
    refine ⟨hincidents, hhypotheses, hauthoritative, ?_⟩
    change (_ || _) = false
    rw [hdegraded, hpartly]
    rfl
  · have hsame : (atRead netlinkClock clock d before Read.incidents.ctorIdx).incidents =
        (atRead netlinkClock clock d before Read.incidentCount.ctorIdx).incidents :=
      atRead_rests (fun d => d.incidents) (fun _ _ => step_incidents) (by decide) hrests
    have hcount : snapshot.status.activeIncidents = snapshot.incidents.length := by
      change _ = (List.insertionSort _ _).length
      rw [length_insertionSort, hsame]
      rfl
    refine ⟨hcount, fun h => eq_nil_of_length_eq_zero ?_⟩
    rw [← hcount]
    exact (hhealthy h).1
  · have hsame : (atRead netlinkClock clock d before Read.hypotheses.ctorIdx).rootCauses =
        (atRead netlinkClock clock d before Read.hypothesisCount.ctorIdx).rootCauses :=
      atRead_rests (fun d => d.rootCauses) (fun _ _ => step_rootCauses) (by decide) hrests
    have hcount : snapshot.status.activeHypotheses = snapshot.hypotheses.length := by
      change _ = (List.insertionSort _ _).length
      rw [length_insertionSort, hsame]
      rfl
    refine ⟨hcount, fun h => eq_nil_of_length_eq_zero ?_⟩
    rw [← hcount]
    exact (hhealthy h).2.1
  · have hsame : (atRead netlinkClock clock d before Read.topologyAgain.ctorIdx).topology =
        (atRead netlinkClock clock d before Read.topology.ctorIdx).topology :=
      atRead_rests (fun d => d.topology) (fun _ _ => step_topology) (by decide) hrests
    have htopology : snapshot.topology =
        (atRead netlinkClock clock d before Read.topology.ctorIdx).topology.state :=
      congrArg NetlinkCollector.state hsame
    rw [htopology]
    exact (hhealthy h).2.2

def uplinkLost (number : ℕ) : NetworkEvent :=
  ⟨{ schemaVersion := 1
     eventId := number + 1
     sequence := number + 1
     kind := .uplinkObservation
     source := .netlinkCollector
     observedAt := number
     monotonicAt := number
     netns := ⟨4, 1⟩
     interface := none
     socket := none
     validity := .unavailable
     status := none }, .uplink ⟨[], 0, false, ""⟩, by rfl⟩

def undisturbed : Placement
  | 0 => [.incidents (uplinkLost 0), .incidents (uplinkLost 1)]
  | _ => []

theorem undisturbed_consistent :
    let snapshot := diagnose (fun _ => (0, 0)) SocketTracker.sampleClock sampleDaemon undisturbed 0
    snapshot.status.activeIncidents = snapshot.incidents.length ∧ snapshot.incidents.length = 1 ∧
      snapshot.status.activeHypotheses = snapshot.hypotheses.length := by
  have hnear := diagnosis_near_consistent (fun _ => (0, 0)) SocketTracker.sampleClock sampleDaemon
    undisturbed 0
  exact ⟨(hnear.2.1 (by decide)).1, by decide +kernel, (hnear.2.2.1 (by decide)).1⟩

/-- The topology is authoritative before the query; after the reads of the status the uplink is
lost and the collector misses notifications. -/
def disturbed : Placement
  | 0 => [.collector (.reconcile false (.hook (some (.blank ⟨4, 1⟩))))]
  | 8 => [.incidents (uplinkLost 0), .incidents (uplinkLost 1), .collector .overflow]
  | _ => []

/-- The snapshot is healthy, counts no incident, lists one and has a degraded topology. -/
theorem healthy_with_incident :
    let snapshot := diagnose (fun _ => (0, 0)) SocketTracker.sampleClock sampleDaemon disturbed 0
    snapshot.status.state = .healthy ∧ snapshot.status.activeIncidents = 0 ∧
      snapshot.incidents.length = 1 ∧ snapshot.topology.degraded := by
  refine ⟨by decide +kernel, by decide +kernel, by decide +kernel, by decide +kernel⟩
end Daemon
end WeakNet
