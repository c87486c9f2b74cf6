import Mathlib.Data.String.Basic
import WeakNet.NetlinkCollector
import WeakNet.RootCauseEngine
import WeakNet.SocketTrackerRuns

/-! `RuntimeHealth`, `DiagnosticsQueryService::getStatusSnapshot` and the part of
`DaemonApplication` that connects them: the health entry of the tracker is written when the tracker
is started and when the daemon stops. An exception of the tracker ends the process. -/

namespace WeakNet
open Foundation Foundation.Runs SocketTracker

inductive RuntimeHealthState where
  | starting | running | disabled | degraded | failed | stopped
deriving DecidableEq

structure RuntimeHealthEntry where
  component : String
  state : RuntimeHealthState
  reason : String
deriving DecidableEq

abbrev RuntimeHealth := OrderedMap String (RuntimeHealthState × String)

namespace RuntimeHealth
def set (health : RuntimeHealth) (component : String) (state : RuntimeHealthState)
    (reason : String) : RuntimeHealth :=
  health.insert component (state, reason)

def snapshot (health : RuntimeHealth) : List RuntimeHealthEntry :=
  health.entries.map fun (component, state, reason) => ⟨component, state, reason⟩

def unwell (state : RuntimeHealthState) : Bool := state == .degraded || state == .failed

def degraded (health : RuntimeHealth) : Bool :=
  health.snapshot.any fun entry => unwell entry.state
end RuntimeHealth

inductive OverallDiagnosticState where
  | healthy | degraded | unknown
deriving DecidableEq

structure StatusSnapshot where
  state : OverallDiagnosticState
  topologyAuthoritative : Bool
  topologyDegraded : Bool
  socketTrackerDegraded : Bool
  runtimeDegraded : Bool
  activeIncidents : ℕ
  activeHypotheses : ℕ
  uplink : UplinkSelection
  timestampMs : ℕ

structure DiagnosticsQueryService where
  health : RuntimeHealth
  incidents : IncidentEngine
  incidentsRunning : Bool
  rootCauses : RootCauseEngine
  rootCausesRunning : Bool
  topology : NetlinkCollector

namespace DiagnosticsQueryService
def socketTrackerDegraded (entries : List RuntimeHealthEntry) : Bool :=
  entries.foldl (fun result entry =>
    if entry.component = "socket_tracker" then RuntimeHealth.unwell entry.state else result) false

def getStatusSnapshot (q : DiagnosticsQueryService) (timestampMs : ℕ) : StatusSnapshot :=
  let topology := q.topology.state
  let topologyDegraded := topology.degraded || topology.partly
  let activeIncidents := q.incidents.listActiveIncidents.length
  let activeHypotheses := q.rootCauses.listActiveHypotheses.length
  let runtimeUnknown := !q.incidentsRunning || !q.rootCausesRunning || !topology.authoritative
  let runtimeDegraded := q.health.degraded || topologyDegraded || activeIncidents != 0 ||
    activeHypotheses != 0
  { state := if runtimeUnknown then .unknown else if runtimeDegraded then .degraded else .healthy
    topologyAuthoritative := topology.authoritative
    topologyDegraded := topologyDegraded
    socketTrackerDegraded := socketTrackerDegraded q.health.snapshot
    runtimeDegraded := q.health.degraded
    activeIncidents := activeIncidents
    activeHypotheses := activeHypotheses
    uplink := q.topology.selected
    timestampMs := timestampMs }
end DiagnosticsQueryService

/-- `SocketTracker::start` of a tracker that is not running: whether the transport opens, what
the first reconciliation sees, and whether the worker can be created. -/
def SocketTracker.start (clock : Clock) (t : SocketTracker) (opened : Bool)
    (inet inet6 : SocketTracker.DumpSource) (spawned : Bool) :
    SocketTracker × SocketTracker.Outcome :=
  if opened then
    match t.reconcile clock inet inet6 with
    | (t, .threw text) => (t, .threw text)
    | (t, .returned _) => (t, .returned spawned)
  else
    ({ t with telemetry := { t.telemetry with
        degraded := true
        lastError := "transport_open_failed" } }, .returned false)

structure Daemon extends DiagnosticsQueryService where
  tracker : SocketTracker
  serving : Bool

namespace Daemon

def trackerEntry (started degraded : Bool) : RuntimeHealthState × String :=
  if !started then (.degraded, "transport_or_worker_start_failed")
  else if degraded then (.degraded, "initial_reconciliation_failed")
  else (.running, "")

def startTracker (clock : Clock) (d : Daemon) (opened : Bool)
    (inet inet6 : SocketTracker.DumpSource) (spawned : Bool) : Daemon :=
  match d.tracker.start clock opened inet inet6 spawned with
  | (tracker, .threw _) => { d with tracker := { tracker with threw := true } }
  | (tracker, .returned started) =>
    let entry := trackerEntry started tracker.telemetry.degraded
    { d with tracker := tracker, health := d.health.set "socket_tracker" entry.1 entry.2 }

/-- `DaemonApplication::stop`; the query service is gone afterwards. -/
def stop (d : Daemon) : Daemon :=
  { d with
    incidentsRunning := false
    rootCausesRunning := false
    health := d.health.set "socket_tracker" .stopped ""
    serving := false }

inductive Op where
  | collector (op : NetlinkCollector.Op)
  | startTracker (opened : Bool) (inet inet6 : SocketTracker.DumpSource) (spawned : Bool)
  | tracker (op : SocketTracker.Op)
  | incidents (event : NetworkEvent)
  | rootCauses (delivery : RootCauseEngine.Delivery)
  | report (component : {name : String // name ≠ "socket_tracker"}) (state : RuntimeHealthState)
    (reason : String)
  | stop

variable (netlinkClock : ℕ → RealtimeTime × MonotonicTime) (clock : Clock)
def step (d : Daemon) : Op → Daemon
  | .collector op => { d with topology := d.topology.step netlinkClock op }
  | .startTracker opened inet inet6 spawned => d.startTracker clock opened inet inet6 spawned
  | .tracker op => { d with tracker := d.tracker.step clock op }
  | .incidents event => { d with incidents := (d.incidents.process event).1 }
  | .rootCauses delivery => { d with rootCauses := d.rootCauses.step delivery }
  | .report component state reason => { d with health := d.health.set component state reason }
  | .stop => d.stop

/-- The application once the query service exists; the tracker is not started yet. -/
def initial (netns : NetnsId) (hinode : netns.inode ≠ 0) (config : SocketLifecycleConfig)
    (incidents : AcceptedPolicy) (rootCauses : AcceptedRootCausePolicy) (health : RuntimeHealth)
    (topology : NetlinkCollector) : Daemon where
  health := health
  incidents := .initial incidents
  incidentsRunning := true
  rootCauses := .initial rootCauses
  rootCausesRunning := true
  topology := topology
  tracker := .create netns hinode config
  serving := true
end Daemon

namespace RuntimeHealth
def marksTracker (health : RuntimeHealth) : Bool :=
  (health.find? "socket_tracker").any fun entry => unwell entry.1

theorem socketTrackerDegraded_eq (health : RuntimeHealth) :
    DiagnosticsQueryService.socketTrackerDegraded health.snapshot = health.marksTracker := by
  rw [DiagnosticsQueryService.socketTrackerDegraded, snapshot, List.foldl_map, marksTracker]
  refine (OrderedMap.foldl_lookup "socket_tracker" (fun entry : RuntimeHealthState × String => unwell entry.1)
    health.sorted false).trans ?_
  change (health.find? "socket_tracker").elim false _ = _
  cases health.find? "socket_tracker" with
  | none | some => rfl

theorem degraded_of_marksTracker {health : RuntimeHealth} (h : health.marksTracker) :
    health.degraded := by
  obtain ⟨entry, hentry, hunwell⟩ := (Option.any_eq_true _ _).mp h
  rw [degraded, List.any_eq_true]
  refine ⟨⟨"socket_tracker", entry.1, entry.2⟩, ?_, hunwell⟩
  exact List.mem_map.mpr ⟨("socket_tracker", entry), OrderedMap.mem_entries.mpr hentry, rfl⟩

theorem marksTracker_set_ne {component : String} (h : component ≠ "socket_tracker")
    (health : RuntimeHealth) (state : RuntimeHealthState) (reason : String) :
    (health.set component state reason).marksTracker = health.marksTracker := by
  rw [marksTracker, set, OrderedMap.find?_insert, if_neg h, marksTracker]

theorem marksTracker_set (health : RuntimeHealth) (state : RuntimeHealthState) (reason : String) :
    (health.set "socket_tracker" state reason).marksTracker = unwell state := by
  rw [marksTracker, set, OrderedMap.find?_insert, if_pos rfl]
  rfl
end RuntimeHealth

namespace SocketTracker
variable {t : SocketTracker} {clock : Clock}
def Failing (clock : Clock) (t : SocketTracker) (inet inet6 : DumpSource) : Prop :=
  match t.reported inet inet6 with
  | none => True
  | some records => t.lifecycle.snapshotInProgress = true ∨
      (observeRecords clock records (t.lifecycle.opened, t.reads)).2.2 = .refused

theorem resolveRecords_false_iff (h : Tracking t) (records : List SocketDiagRecord)
    (telemetry : SocketTrackerTelemetry) :
    (resolveRecords clock { t with telemetry := telemetry } records).2 = .returned false ↔
      (t.lifecycle.snapshotInProgress ∨
        (observeRecords clock records (t.lifecycle.opened, t.reads)).2.2 = .refused) := by
  rw [resolveRecords, SocketLifecycleTable.beginSnapshot]
  cases hidle : t.lifecycle.snapshotInProgress with
  | true => simp
  | false =>
    have hbegin : ({ t.lifecycle.clearPending with
        snapshotInProgress := true, disposition := .authoritative } : SocketLifecycleTable) =
          t.lifecycle.opened := rfl
    obtain ⟨seen, htable, -, hall⟩ := observeRecords_spec clock records t.lifecycle.opened t.reads
    simp only [Bool.false_eq_true, ↓reduceIte, hbegin, false_or]
    generalize observeRecords .. = observed at *
    obtain ⟨table, reads, observing⟩ := observed
    cases observing with
    | refused | exhausted => simp
    | accepted =>
      obtain ⟨rfl, hreads⟩ := hall rfl
      obtain rfl : reads = t.reads + records.length := hreads
      obtain rfl : table = t.lifecycle.opened.observeAll (inputsFrom clock t.reads records) := htable
      have hfinished := finish_resolved clock h records telemetry
      simp only [commitSnapshot_observed h.sound records, reduceCtorEq, iff_false]
      generalize finish .. = result at *
      cases hfinished with
      | done | threw => simp

theorem reconcile_false_iff (h : Tracking t) (inet inet6 : DumpSource) :
    (t.reconcile clock inet inet6).2 = .returned false ↔ Failing clock t inet inet6 := by
  rw [reconcile, Failing, reported]
  generalize dumpFamilies .. = dumped
  obtain ⟨telemetry, records⟩ := dumped
  cases records with
  | none => simp
  | some records => exact resolveRecords_false_iff h records telemetry

variable (clock) in
theorem reconcile_degraded (h : Tracking t) (inet inet6 : DumpSource) (ok : Bool)
    (hreturned : (t.reconcile clock inet inet6).2 = .returned ok) :
    (t.reconcile clock inet inet6).1.telemetry.degraded = !ok := by
  have hreconciled := reconcile_reconciled clock h.sound inet inet6
  generalize t.reconcile .. = result at *
  cases hreconciled with
  | failed _ _ _ _ _ _ hdegraded =>
    cases hreturned
    exact hdegraded
  | exhausted => cases hreturned
  | resolved records telemetry =>
    have hfinished := finish_resolved clock h records telemetry
    generalize finish .. = result at *
    cases hfinished with
    | done _ _ _ hdegraded =>
      cases hreturned
      exact hdegraded
    | threw => cases hreturned

variable (clock) in
theorem reconcile_threw (h : Tracking t) (inet inet6 : DumpSource) :
    (t.reconcile clock inet inet6).1.threw = t.threw := by
  have hreconciled := reconcile_reconciled clock h.sound inet inet6
  generalize t.reconcile .. = result at *
  cases hreconciled with
  | failed
  | exhausted => rfl
  | resolved records telemetry =>
    have hfinished := finish_resolved clock h records telemetry
    generalize finish .. = result at *
    cases hfinished with
    | done u telemetry' hpublished | threw u text hpublished =>
      obtain ⟨events, hmoved⟩ := hpublished.moved
      exact hmoved.threw
end SocketTracker

namespace Daemon
variable {d : Daemon} {netlinkClock : ℕ → RealtimeTime × MonotonicTime} {clock : Clock}

def Reported (d : Daemon) : Prop :=
  d.serving = true → d.tracker.threw = false → d.tracker.telemetry.degraded = true →
    ∀ timestampMs, (d.getStatusSnapshot timestampMs).socketTrackerDegraded = true ∧
      (d.getStatusSnapshot timestampMs).state ≠ .healthy

def Covered (clock : Clock) (d : Daemon) : Op → Prop
  | .tracker (.reconcile inet inet6) => d.serving = true → d.tracker.threw = false →
      d.tracker.Failing clock inet inet6 → d.health.marksTracker = true
  | _ => True

theorem state_ne_healthy (h : d.health.marksTracker) (timestampMs : ℕ) :
    (d.getStatusSnapshot timestampMs).state ≠ .healthy := by
  have hdegraded := RuntimeHealth.degraded_of_marksTracker h
  rw [DiagnosticsQueryService.getStatusSnapshot]
  rw [hdegraded]
  simp only [Bool.true_or, if_true]
  split_ifs <;> nofun

theorem reported_iff (d : Daemon) :
    Reported d ↔ (d.serving → d.tracker.threw = false →
      d.tracker.telemetry.degraded → d.health.marksTracker) := by
  refine ⟨fun h hserving halive hdegraded => ?_, fun h hserving halive hdegraded now => ?_⟩
  · rw [← RuntimeHealth.socketTrackerDegraded_eq]
    exact (h hserving halive hdegraded 0).1
  · have hmarked := h hserving halive hdegraded
    refine ⟨?_, state_ne_healthy hmarked now⟩
    rw [← RuntimeHealth.socketTrackerDegraded_eq] at hmarked
    exact hmarked

theorem startTracker_reported (opened : Bool) (inet inet6 : SocketTracker.DumpSource)
    (spawned : Bool) : Reported (d.startTracker clock opened inet inet6 spawned) := by
  rw [reported_iff, startTracker]
  generalize d.tracker.start .. = result
  obtain ⟨tracker, outcome⟩ := result
  cases outcome with
  | threw => exact fun _ halive => absurd halive nofun
  | returned started =>
    intro _ _ hdegraded
    rw [RuntimeHealth.marksTracker_set, show tracker.telemetry.degraded = true from hdegraded]
    cases started <;> rfl

section
variable (h : d.tracker.Tracking)
include h
theorem reconcile_reported_iff (hreported : Reported d) (inet inet6 : SocketTracker.DumpSource) :
    Reported { d with tracker := d.tracker.step clock (.reconcile inet inet6) } ↔
      Covered clock d (.tracker (.reconcile inet inet6)) := by
  rw [reported_iff] at hreported ⊢
  by_cases hthrew : d.tracker.threw
  · rw [step_of_threw hthrew]
    exact ⟨fun _ _ halive => by simp [hthrew] at halive, fun _ => hreported⟩
  · rw [Covered, ← SocketTracker.reconcile_false_iff h, SocketTracker.step, if_neg hthrew]
    have hdegraded := SocketTracker.reconcile_degraded clock h inet inet6
    have hkept := SocketTracker.reconcile_threw clock h inet inet6
    generalize reconcile .. = result at *
    obtain ⟨t, outcome⟩ := result
    cases outcome with
    | threw => simp
    | returned ok =>
      have hflag : t.telemetry.degraded = !ok := hdegraded ok rfl
      cases ok with
      | true => simp [hflag]
      | false => simp [hflag, show t.threw = d.tracker.threw from hkept]

theorem step_reported_iff (hreported : Reported d) (op : Op) :
    Reported (d.step netlinkClock clock op) ↔ Covered clock d op := by
  cases op with
  | startTracker opened inet inet6 spawned =>
    exact ⟨fun _ => trivial, fun _ => startTracker_reported opened inet inet6 spawned⟩
  | tracker op =>
    cases op with
    | reconcile inet inet6 => exact reconcile_reported_iff h hreported inet inet6
    | recomputeRouteContexts topology uplink =>
      refine ⟨fun _ => trivial, fun _ => ?_⟩
      rw [reported_iff] at hreported ⊢
      intro hserving halive hdegraded
      by_cases hthrew : d.tracker.threw
      · rw [step, step_of_threw hthrew] at halive
        exact absurd (halive.symm.trans hthrew) Bool.false_ne_true
      · have hidle := Bool.eq_false_iff.mpr hthrew
        have hstepped := step_recompute clock h hidle topology uplink
        rw [step] at halive hdegraded
        generalize SocketTracker.step .. = next at *
        cases hstepped with
        | recomputed _ _ _ _ _ _ _ _ _ _ htelemetry =>
          apply hreported hserving hidle
          rw [← htelemetry]
          exact hdegraded
    | setRouteAttributor =>
      refine ⟨fun _ => trivial, fun _ => ?_⟩
      rw [reported_iff] at hreported ⊢
      rw [step, SocketTracker.step.eq_def]
      split_ifs
      all_goals exact hreported
  | report component =>
    refine ⟨fun _ => trivial, fun _ => ?_⟩
    rw [reported_iff] at hreported ⊢
    rw [step, RuntimeHealth.marksTracker_set_ne component.2]
    exact hreported
  | stop =>
    refine ⟨fun _ => trivial, fun _ => ?_⟩
    exact fun hserving => absurd hserving Bool.false_ne_true
  | collector | incidents | rootCauses =>
    exact ⟨fun _ => trivial, fun _ => (reported_iff _).mpr ((reported_iff d).mp hreported)⟩

theorem step_tracking (op : Op) :
    (d.step netlinkClock clock op).tracker.Tracking := by
  cases op with
  | startTracker opened inet inet6 =>
    rw [step, startTracker, start]
    cases opened with
    | false => exact ⟨h.sound, h.numbered⟩
    | true =>
      have hreconcile := h.reconcile clock inet inet6
      simp only [if_true]
      generalize reconcile .. = result at *
      obtain ⟨t, outcome⟩ := result
      cases outcome with
      | threw => exact ⟨hreconcile.sound, hreconcile.numbered⟩
      | returned => exact hreconcile
  | tracker op => exact h.step op
  | report | stop | collector | incidents | rootCauses =>
    exact h
end

variable (netlinkClock clock) in
/-- The failures of the tracker are reported throughout a run exactly when each of them finds
the entry from the start-up already degraded. -/
theorem tracker_failure_reported_iff (netns : NetnsId) (hinode : netns.inode ≠ 0)
    (config : SocketLifecycleConfig) (incidents : AcceptedPolicy)
    (rootCauses : AcceptedRootCausePolicy) (health : RuntimeHealth) (topology : NetlinkCollector)
    (ops : List Op) :
    AllStates (step netlinkClock clock) Reported
        (initial netns hinode config incidents rootCauses health topology) ops ↔
      AllSteps (step netlinkClock clock) (Covered clock)
        (initial netns hinode config incidents rootCauses health topology) ops := by
  have htracking : AllSteps (step netlinkClock clock) (fun d _ => d.tracker.Tracking)
      (initial netns hinode config incidents rootCauses health topology) ops :=
    allSteps_of_invariant (P := fun d : Daemon => d.tracker.Tracking) (fun _ _ h => h)
      (fun _ op h => step_tracking h op) (tracking_create netns hinode config) ops
  refine allStates_iff_allSteps (fun d op hreported htracked => ?_) ?_ htracking
  · exact step_reported_iff htracked hreported op
  · rw [reported_iff]
    exact fun _ _ hdegraded => absurd hdegraded Bool.false_ne_true

def sampleDaemon : Daemon :=
  initial ⟨4, 1⟩ Nat.one_ne_zero
    (SocketLifecycleTable.sampleConfig 3)
    ⟨.standard, IncidentPolicy.standard_accepted⟩ .standard .empty
    (NetlinkCollector.start ⟨4, 1⟩ Nat.one_ne_zero)

theorem early_failure_reported :
    AllStates (step (fun _ => (0, 0)) SocketTracker.sampleClock) Reported sampleDaemon
      [.startTracker false (.hook none) (.hook none) true,
        .tracker (.reconcile (.hook none) (.hook none))] :=
  (tracker_failure_reported_iff (fun _ => (0, 0)) sampleClock ⟨4, 1⟩ (by decide)
    (SocketLifecycleTable.sampleConfig 3)
    ⟨.standard, IncidentPolicy.standard_accepted⟩ .standard .empty
    (NetlinkCollector.start ⟨4, 1⟩ (by decide)) _).mpr
    ⟨trivial, fun _ _ _ => by decide +kernel, trivial⟩

def lateFailure : List Op :=
  [.collector (.reconcile false (.hook (some (.blank ⟨4, 1⟩)))),
    .startTracker true (.hook (some [])) (.hook (some [])) true,
    .tracker (.reconcile (.hook none) (.hook none))]

theorem late_failure_healthy :
    let d := run (step (fun _ => (0, 0)) SocketTracker.sampleClock) sampleDaemon lateFailure
    d.serving ∧ d.tracker.threw = false ∧ d.tracker.telemetry.degraded ∧
      (d.getStatusSnapshot 0).socketTrackerDegraded = false ∧
      (d.getStatusSnapshot 0).state = .healthy := by
  refine ⟨by decide +kernel, by decide +kernel, by decide +kernel, by decide +kernel,
    by decide +kernel⟩
end Daemon
end WeakNet
