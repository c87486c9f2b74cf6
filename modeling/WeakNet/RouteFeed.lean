import WeakNet.CollectorRuns
import WeakNet.SocketTrackerRuns

/-! `NetlinkCollector` and `SocketTracker` connected by the committed callback, with one more call
when the application starts. Marking a snapshot as degraded does not call back. A reconciliation of
the tracker reads its copy of the topology in a step by itself, after which the collector may run. -/

namespace WeakNet
open Foundation Foundation.Runs SocketTracker List SocketRouteAttributor

/-- `copied` is what the reconciliation under way has read for its contexts. -/
structure RouteFeed where
  collector : NetlinkCollector
  tracker : SocketTracker
  copied : TopologySnapshot × UplinkSelection

namespace RouteFeed
inductive Op where
  | collector (op : NetlinkCollector.Op)
  | readCopy
  | reconcile (inet inet6 : SocketTracker.DumpSource)
  | recomputeRouteContexts (topology : TopologySnapshot) (uplink : UplinkSelection)
  | setRouteAttributor (present : Bool)

variable (netlinkClock : ℕ → RealtimeTime × MonotonicTime) (clock : Clock)
def onCommitted (t : SocketTracker) (committed : TopologySnapshot × UplinkSelection) :
    SocketTracker :=
  t.step clock (.recomputeRouteContexts committed.1 committed.2)

def reading (f : RouteFeed) : SocketTracker :=
  { f.tracker with routeTopology := f.copied.1, routeUplink := f.copied.2 }

def step (f : RouteFeed) : Op → RouteFeed
  | .collector op =>
    let collector := f.collector.step netlinkClock op
    let handed := collector.committed.drop f.collector.committed.length
    { f with collector := collector, tracker := handed.foldl (onCommitted clock) f.tracker }
  | .readCopy => { f with copied := (f.tracker.routeTopology, f.tracker.routeUplink) }
  | .reconcile inet inet6 =>
    { f with tracker := { f.reading.step clock (.reconcile inet inet6) with
        routeTopology := f.tracker.routeTopology
        routeUplink := f.tracker.routeUplink } }
  | .recomputeRouteContexts topology uplink =>
    { f with tracker := f.tracker.step clock (.recomputeRouteContexts topology uplink) }
  | .setRouteAttributor present =>
    { f with tracker := f.tracker.step clock (.setRouteAttributor present) }

def initial (netns : NetnsId) (hinode : netns.inode ≠ 0) (config : SocketLifecycleConfig) :
    RouteFeed where
  collector := .start netns hinode
  tracker := .create netns hinode config
  copied := (.blank ⟨0, 0⟩, .blank)

/-- The route contexts that a step publishes while the snapshot of the collector is degraded say
so, and none of them is available. -/
def Sighted (f : RouteFeed) (op : Op) : Prop :=
  ∀ event ∈ (f.step netlinkClock clock op).tracker.published.drop f.tracker.published.length,
    ∀ context, event.payload = .socketRoute context →
      (f.step netlinkClock clock op).collector.state.degraded = true →
        .topologyDegraded ∈ context.reasons ∧ context.attributionStatus ≠ .available

def shows (topology : TopologySnapshot) (tuple : SocketTuple) : Bool :=
  SocketRouteAttributor.usable tuple topology && topology.degraded

/-- While the snapshot of the collector is degraded, contexts are computed only from snapshots
that show it. -/
def Covered (f : RouteFeed) : Op → Prop
  | .reconcile inet inet6 =>
    f.collector.state.degraded = true → f.tracker.attributes = true →
      ∀ record ∈ (f.tracker.reported inet inet6).getD [], shows f.copied.1 record.tuple = true
  | .recomputeRouteContexts topology _ =>
    f.collector.state.degraded = true → f.tracker.attributes = true →
      ∀ o ∈ SocketTracker.activeSockets f.tracker.lifecycle, shows topology o.tuple = true
  | _ => True

variable {f : RouteFeed} {netlinkClock : ℕ → RealtimeTime × MonotonicTime} {clock : Clock}

def handed (netlinkClock : ℕ → RealtimeTime × MonotonicTime) (f : RouteFeed)
    (op : NetlinkCollector.Op) : List (TopologySnapshot × UplinkSelection) :=
  (f.collector.step netlinkClock op).committed.drop f.collector.committed.length

def computes (netlinkClock : ℕ → RealtimeTime × MonotonicTime) (clock : Clock) (f : RouteFeed) :
    Op → List SocketRouteContextObservation
  | .collector op => (f.handed netlinkClock op).flatMap fun committed =>
      f.tracker.computes clock (.recomputeRouteContexts committed.1 committed.2)
  | .readCopy => []
  | .reconcile inet inet6 => f.reading.computes clock (.reconcile inet inet6)
  | .recomputeRouteContexts topology uplink =>
      f.tracker.computes clock (.recomputeRouteContexts topology uplink)
  | .setRouteAttributor _ => []

theorem handed_cases (f : RouteFeed) (op : NetlinkCollector.Op) :
    f.handed netlinkClock op = [] ∨ ∃ uplink,
      f.handed netlinkClock op = [((f.collector.step netlinkClock op).state, uplink)] ∧
        (f.collector.step netlinkClock op).state.degraded = false := by
  rw [handed]
  cases NetlinkCollector.step_stepped netlinkClock f.collector op with
  | kept hmarked =>
    rw [hmarked.committed, drop_length]
    exact .inl rfl
  | installed _ _ _ hinstalled hfresh =>
    rw [hinstalled.committed, drop_left]
    rcases hinstalled.pair with hnone | hpair
    · exact .inl hnone
    · rw [hinstalled.state]
      exact .inr ⟨_, hpair, hfresh⟩

theorem reading_tracking (h : f.tracker.Tracking) : f.reading.Tracking := ⟨h.sound, h.numbered⟩

variable (netlinkClock clock) in
theorem step_carries (h : f.tracker.Tracking) (op : Op) :
    ∃ events, (f.step netlinkClock clock op).tracker.published = f.tracker.published ++ events ∧
      SocketTracker.Carries (f.computes netlinkClock clock op) events := by
  cases op with
  | collector op =>
    rw [step, computes]
    change ∃ events, ((f.handed netlinkClock op).foldl (onCommitted clock) f.tracker).published = _ ∧ _
    rcases handed_cases f op with hnone | ⟨uplink, hpair, -⟩
    · rw [hnone]
      exact ⟨[], (append_nil _).symm, carries_nil _⟩
    · rw [hpair, flatMap_cons, flatMap_nil, append_nil]
      exact SocketTracker.step_carries clock h (.recomputeRouteContexts _ uplink)
  | readCopy => exact ⟨[], (append_nil _).symm, SocketTracker.carries_nil _⟩
  | reconcile inet inet6 =>
    exact SocketTracker.step_carries clock (reading_tracking h) (.reconcile inet inet6)
  | recomputeRouteContexts topology uplink =>
    exact SocketTracker.step_carries clock h (.recomputeRouteContexts topology uplink)
  | setRouteAttributor present =>
    exact SocketTracker.step_carries clock h (.setRouteAttributor present)

theorem mem_reconcile_computes (h : f.tracker.Tracking) {inet inet6 : SocketTracker.DumpSource}
    {context : SocketRouteContextObservation}
    (hcontext : context ∈ f.computes netlinkClock clock (.reconcile inet inet6)) :
    f.tracker.attributes ∧ ∃ o : SocketObservation,
      context = attributeSocket o f.copied.1 f.copied.2 ∧
      ∃ record ∈ (f.tracker.reported inet inet6).getD [],
        o.tuple = record.tuple ∧ o.diagIfindex = record.diagIfindex := by
  rw [computes, SocketTracker.computes] at hcontext
  cases hreported : f.reading.reported inet inet6 with
  | none =>
    rw [hreported] at hcontext
    cases hcontext
  | some records =>
    rw [hreported] at hcontext
    obtain ⟨hattributes, o, ho, rfl⟩ := SocketTracker.mem_contextsOf.mp hcontext
    refine ⟨hattributes, o, rfl, ?_⟩
    -- what is committed was reported
    obtain ⟨id, ho⟩ := mem_activeSockets.mp ho
    obtain ⟨k, record, -, -, hrecord, -, rfl⟩ := committed_record (reading_tracking h).sound ho
    rw [show f.tracker.reported inet inet6 = some records from hreported]
    exact ⟨record, hrecord, rfl, rfl⟩

theorem attributeSocket_shows {o : SocketObservation} {topology : TopologySnapshot}
    (h : shows topology o.tuple) (uplink : UplinkSelection) :
    .topologyDegraded ∈ (attributeSocket o topology uplink).reasons ∧
      (attributeSocket o topology uplink).attributionStatus ≠
        .available := by
  obtain ⟨husable, hdegraded⟩ := Bool.and_eq_true_iff.mp h
  exact attributeTuple_degraded husable hdegraded

section
variable (h : f.tracker.Tracking)
include h
theorem computes_shows (op : Op) (hcovered : Covered f op)
    (hdegraded : (f.step netlinkClock clock op).collector.state.degraded) :
    ∀ context ∈ f.computes netlinkClock clock op,
      .topologyDegraded ∈ context.reasons ∧ context.attributionStatus ≠ .available := by
  intro context hcontext
  cases op with
  | collector op =>
    -- what is handed over is the snapshot the collector ends with
    rw [computes] at hcontext
    rcases handed_cases f op with hnone | ⟨uplink, -, hfresh⟩
    · rw [hnone] at hcontext
      cases hcontext
    · exact absurd (hdegraded.symm.trans hfresh) nofun
  | readCopy | setRouteAttributor present => cases hcontext
  | reconcile _ _ =>
    obtain ⟨hattributes, o, rfl, record, hrecord, htuple, -⟩ := mem_reconcile_computes h hcontext
    apply attributeSocket_shows
    rw [htuple]
    exact hcovered hdegraded hattributes record hrecord
  | recomputeRouteContexts _ uplink =>
    obtain ⟨hattributes, o, ho, rfl⟩ := mem_contextsOf.mp hcontext
    exact attributeSocket_shows (hcovered hdegraded hattributes o ho) uplink

theorem step_sighted (op : Op) (hcovered : Covered f op) :
    Sighted netlinkClock clock f op := by
  obtain ⟨events, hpublished, hcarries⟩ := step_carries netlinkClock clock h op
  intro event hevent context hcontext hdegraded
  rw [hpublished, drop_left] at hevent
  exact computes_shows h op hcovered hdegraded context ((hcarries event hevent).2 context hcontext)

theorem step_tracking (op : Op) :
    (f.step netlinkClock clock op).tracker.Tracking := by
  cases op with
  | collector _ =>
    exact run_invariant (fun t committed ht => ht.step (.recomputeRouteContexts committed.1
      committed.2)) h _
  | readCopy => exact h
  | reconcile inet inet6 =>
    have hnext : (f.reading.step clock (.reconcile inet inet6)).Tracking :=
      (reading_tracking h).step _
    exact ⟨hnext.sound, hnext.numbered⟩
  | recomputeRouteContexts topology uplink =>
    exact h.step (.recomputeRouteContexts topology uplink)
  | setRouteAttributor present =>
    have hnext : (f.tracker.step clock (.setRouteAttributor present)).Tracking := h.step _
    exact hnext
end

variable (netlinkClock clock) in
/-- In a run whose contexts are computed from snapshots that show the degradation of the
collector, they all say so. -/
theorem degradation_attributed (netns : NetnsId) (hinode : netns.inode ≠ 0)
    (config : SocketLifecycleConfig) (ops : List Op)
    (hcovered : AllSteps (step netlinkClock clock) Covered (initial netns hinode config) ops) :
    AllSteps (step netlinkClock clock) (Sighted netlinkClock clock) (initial netns hinode config)
      ops :=
  hcovered.imp (P := fun f => f.tracker.Tracking) (fun _ op htracking => step_sighted htracking op)
    (fun _ op htracking _ => step_tracking htracking op)
    (tracking_create netns hinode config)

section Sample
def connectedRecord : SocketDiagRecord :=
  { SocketTracker.sampleRecord (some 1) 0 none with
    tuple := SocketRouteAttributor.mappedTuple.embedded }

def sampleInitial : RouteFeed :=
  initial ⟨4, 1⟩ Nat.one_ne_zero
    (SocketLifecycleTable.sampleConfig 3)

def sampleStep : RouteFeed → Op → RouteFeed :=
  step NetlinkCollector.sampleClock SocketTracker.sampleClock

def sampleSnapshot : TopologySnapshot :=
  SocketRouteAttributor.sampleTopology [SocketRouteAttributor.defaultRoute]

def sampleCommit : List Op :=
  [.setRouteAttributor true, .collector (.reconcile false (.hook (some sampleSnapshot)))]

def sampleReconcile : Op := .reconcile (.hook (some [connectedRecord])) (.hook (some []))

theorem degradation_attributed_sample :
    AllSteps sampleStep
      (Sighted NetlinkCollector.sampleClock SocketTracker.sampleClock) sampleInitial
      (sampleCommit ++ [.collector .overflow,
        .recomputeRouteContexts { sampleSnapshot with degraded := true } .blank, .readCopy,
        sampleReconcile]) := by
  refine degradation_attributed NetlinkCollector.sampleClock sampleClock ⟨4, 1⟩
    (by decide) (SocketLifecycleTable.sampleConfig 3) _
    ⟨trivial, trivial, trivial, ?_, trivial, ?_, trivial⟩
  · intro _ _ o ho
    cases ho
  · intro _ _ record hrecord
    obtain rfl := mem_singleton.mp hrecord
    decide +kernel

def routeContext : NetworkEventPayload → Option SocketRouteContextObservation
  | .socketRoute context => some context
  | _ => none

def sampleOverflow : RouteFeed :=
  run sampleStep sampleInitial (sampleCommit ++ [.collector .overflow, .readCopy])

/-- After the overflow the snapshot of the collector is degraded; a reconciliation of the tracker
still publishes a context that is available. -/
theorem overflow_unseen :
    sampleOverflow.collector.state.degraded = true ∧
      ¬ Sighted NetlinkCollector.sampleClock SocketTracker.sampleClock sampleOverflow
        sampleReconcile := by
  have hdegraded : sampleOverflow.collector.state.degraded := by decide +kernel
  have hpublished : ((sampleStep sampleOverflow sampleReconcile).tracker.published.drop
      sampleOverflow.tracker.published.length).any (fun event =>
        (routeContext event.payload).any (fun context =>
          context.attributionStatus == .available)) := by
    decide +kernel
  refine ⟨hdegraded, fun hsighted => ?_⟩
  obtain ⟨event, hevent, havailable⟩ := any_eq_true.mp hpublished
  cases hpayload : event.payload with
  | socketRoute context =>
    rw [hpayload] at havailable
    exact (hsighted event hevent context hpayload hdegraded).2 (beq_iff_eq.mp havailable)
  | _ =>
    rw [hpayload] at havailable
    cases havailable
end Sample
end RouteFeed
end WeakNet
