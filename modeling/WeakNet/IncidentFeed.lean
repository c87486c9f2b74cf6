import WeakNet.EventBus
import WeakNet.IncidentStreaks
import WeakNet.RouteFeed

/-! Collector, tracker and incident engine in one run. The engine is handed published events under
any sequence number and in any order, and events of other producers. `announced` and `attributed`
keep with each event the snapshot it was made from, and `counted` for each key the bad evaluations
of its streak. -/

namespace WeakNet
open NetworkEventPayload RouteFeed
open Foundation Foundation.Runs SocketRouteAttributor List IncidentEngine SocketTracker UplinkPolicy

structure IncidentFeed where
  feed : RouteFeed
  announced : List (NetworkEvent × TopologySnapshot)
  attributed : List (NetworkEvent × TopologySnapshot)
  incidents : IncidentEngine
  counted : IncidentKey → List (IncidentEngine × NetworkEvent × Option TopologySnapshot)

namespace IncidentFeed
abbrev OtherEvent :=
  {event : NetworkEvent //
    event.header.source ≠ .netlinkCollector ∧ event.header.source ≠ .socketTracker}

inductive Message where
  | fromCollector (i sequence : ℕ)
  | fromTracker (i sequence : ℕ)
  | fromOther (event : OtherEvent)

inductive Op where
  | feed (op : RouteFeed.Op)
  | deliver (message : Message)

def find (s : IncidentFeed) : Message → Option NetworkEvent
  | .fromCollector i sequence => s.feed.collector.published[i]?.map (·.withSequence sequence)
  | .fromTracker i sequence => s.feed.tracker.published[i]?.map (·.withSequence sequence)
  | .fromOther event => some event

def origin (s : IncidentFeed) : Message → Option TopologySnapshot
  | .fromCollector i _ => s.announced[i]?.map Prod.snd
  | .fromTracker i _ => s.attributed[i]?.map Prod.snd
  | .fromOther _ => none

def deliver (s : IncidentFeed) (event : NetworkEvent) (origin : Option TopologySnapshot) :
    IncidentFeed :=
  let next := (s.incidents.process event).1
  { s with
    incidents := next
    counted := fun key =>
      if next.streakAt key = 0 then []
      else if s.incidents.streakAt key < next.streakAt key then
        s.counted key ++ [(s.incidents, event, origin)]
      else s.counted key }

variable (netlinkClock : ℕ → RealtimeTime × MonotonicTime) (clock : Clock)
def snapshotOf (f : RouteFeed) : RouteFeed.Op → TopologySnapshot
  | .collector op => (f.collector.step netlinkClock op).state
  | .reconcile _ _ => f.copied.1
  | .recomputeRouteContexts topology _ => topology
  | .readCopy => f.collector.state
  | .setRouteAttributor _ => f.collector.state

def step (s : IncidentFeed) : Op → IncidentFeed
  | .feed op =>
    let feed := s.feed.step netlinkClock clock op
    let snapshot := snapshotOf netlinkClock s.feed op
    { s with
      feed := feed
      announced := s.announced ++ (feed.collector.published.drop
        s.feed.collector.published.length).map (·, snapshot)
      attributed := s.attributed ++ (feed.tracker.published.drop
        s.feed.tracker.published.length).map (·, snapshot) }
  | .deliver message => (s.find message).elim s (s.deliver · (s.origin message))

def initial (netns : NetnsId) (hinode : netns.inode ≠ 0) (config : SocketLifecycleConfig)
    (policy : AcceptedPolicy) : IncidentFeed where
  feed := .initial netns hinode config
  announced := []
  attributed := []
  incidents := .initial policy
  counted := fun _ => []

def Activates (s : IncidentFeed) (op : Op) (key : IncidentKey) : Prop :=
  s.incidents.activeAt key = false ∧
    (s.step netlinkClock clock op).incidents.activeAt key = true

variable {netlinkClock : ℕ → RealtimeTime × MonotonicTime} {clock : Clock} {s : IncidentFeed}
  {P : TopologySnapshot → SocketRouteContextObservation → Prop} {event : NetworkEvent}
  {key : IncidentKey}

/-- The route contexts that have been published satisfy `P` with their snapshots, and the collector
has announced facts and the uplinks selected from its snapshots. -/
structure Published (P : TopologySnapshot → SocketRouteContextObservation → Prop)
    (s : IncidentFeed) : Prop where
  tracking : s.feed.tracker.Tracking
  announced : s.announced.map Prod.fst = s.feed.collector.published
  attributed : s.attributed.map Prod.fst = s.feed.tracker.published
  tracker : ∀ entry ∈ s.attributed, entry.1.header.source = .socketTracker ∧
    ∀ context, entry.1.payload = .socketRoute context → P entry.2 context
  collector : ∀ entry ∈ s.announced, ∃ netns, NetlinkCollector.Announces netns entry.2 entry.1

theorem collector_announces (c : NetlinkCollector) (op : NetlinkCollector.Op) :
    ∃ events, (c.step netlinkClock op).published = c.published ++ events ∧
      ∀ event ∈ events, NetlinkCollector.Announces c.netns (c.step netlinkClock op).state event := by
  cases NetlinkCollector.step_stepped netlinkClock c op with
  | kept hmarked => exact ⟨[], by rw [hmarked.published, append_nil], forall_mem_nil _⟩
  | installed _ events _ hinstalled =>
    rw [hinstalled.state]
    exact ⟨events, hinstalled.published, hinstalled.announces⟩

theorem Published.step (h : Published P s) (op : RouteFeed.Op)
    (hcomputed : ∀ context ∈ s.feed.computes netlinkClock clock op,
      P (snapshotOf netlinkClock s.feed op) context) :
    Published P (s.step netlinkClock clock (.feed op)) := by
  obtain ⟨sent, hsent, hcarries⟩ := step_carries netlinkClock clock h.tracking op
  obtain ⟨events, hevents, hannounces⟩ : ∃ events,
      (s.feed.step netlinkClock clock op).collector.published =
        s.feed.collector.published ++ events ∧ ∀ event ∈ events, ∃ netns,
          NetlinkCollector.Announces netns (snapshotOf netlinkClock s.feed op) event := by
    cases op with
    | collector op =>
      obtain ⟨events, hevents, hannounces⟩ := collector_announces s.feed.collector op
      exact ⟨events, hevents, fun event hevent => ⟨_, hannounces event hevent⟩⟩
    | readCopy
    | reconcile
    | recomputeRouteContexts
    | setRouteAttributor => exact ⟨[], (append_nil _).symm, forall_mem_nil _⟩
  have hmap : ∀ (l : List NetworkEvent) (snapshot : TopologySnapshot),
      (l.map (·, snapshot)).map Prod.fst = l := fun l _ => by simp [Function.comp_def]
  refine ⟨step_tracking h.tracking op, ?_, ?_, ?_, ?_⟩ <;> dsimp only [IncidentFeed.step]
  · rw [map_append, hmap, hevents, drop_left, h.announced]
  · rw [map_append, hmap, hsent, drop_left, h.attributed]
  · rw [hsent, drop_left, forall_mem_append, forall_mem_map]
    refine ⟨h.tracker, fun event hevent => ?_⟩
    obtain ⟨hsource, hcontexts⟩ := hcarries event hevent
    exact ⟨hsource, fun context hcontext => hcomputed context (hcontexts context hcontext)⟩
  · rw [hevents, drop_left, forall_mem_append, forall_mem_map]
    exact ⟨h.collector, hannounces⟩

inductive Delivered (P : TopologySnapshot → SocketRouteContextObservation → Prop)
    (event : NetworkEvent) : Option TopologySnapshot → Prop
  | tracker (snapshot : TopologySnapshot) (hsource : event.header.source = .socketTracker)
    (hcontexts : ∀ context, event.payload = .socketRoute context → P snapshot context) :
    Delivered P event (some snapshot)
  | collector (netns : NetnsId) (after : TopologySnapshot)
    (hannounces : NetlinkCollector.Announces netns after event) : Delivered P event (some after)
  | other (hcollector : event.header.source ≠ .netlinkCollector)
    (htracker : event.header.source ≠ .socketTracker) : Delivered P event none

theorem announces_withSequence {netns : NetnsId} {after : TopologySnapshot}
    (h : NetlinkCollector.Announces netns after event) (sequence : ℕ) :
    NetlinkCollector.Announces netns after (event.withSequence sequence) := by
  cases h with
  | fact hpayload => exact .fact hpayload
  | uplink hpayload hvalidity hnetns => exact .uplink hpayload hvalidity hnetns

theorem Published.delivered (h : Published P s) {message : Message}
    (hfind : s.find message = some event) : Delivered P event (s.origin message) := by
  cases message with
  | fromCollector i sequence =>
    obtain ⟨published, hget, rfl⟩ := Option.map_eq_some_iff.mp hfind
    rw [← h.announced, getElem?_map] at hget
    obtain ⟨entry, hentry, rfl⟩ := Option.map_eq_some_iff.mp hget
    obtain ⟨netns, hannounces⟩ := h.collector entry (mem_of_getElem? hentry)
    rw [origin, hentry]
    exact .collector netns entry.2 (announces_withSequence hannounces sequence)
  | fromTracker i =>
    obtain ⟨published, hget, rfl⟩ := Option.map_eq_some_iff.mp hfind
    rw [← h.attributed, getElem?_map] at hget
    obtain ⟨entry, hentry, rfl⟩ := Option.map_eq_some_iff.mp hget
    obtain ⟨hsource, hcontexts⟩ := h.tracker entry (mem_of_getElem? hentry)
    rw [origin, hentry]
    exact .tracker entry.2 hsource hcontexts
  | fromOther other =>
    cases hfind
    exact .other other.2.1 other.2.2

variable {origin : Option TopologySnapshot}
theorem Delivered.context (h : Delivered P event origin)
    (hsource : event.header.source = .socketTracker)
    {context : SocketRouteContextObservation} (hpayload : event.payload = .socketRoute context) :
    ∃ snapshot, origin = some snapshot ∧ P snapshot context := by
  cases h with
  | tracker snapshot _ hcontexts => exact ⟨snapshot, rfl, hcontexts context hpayload⟩
  | collector _ _ hannounces =>
    cases hannounces with
    | fact hfact =>
      rw [hpayload] at hfact
      cases hfact
    | uplink huplink => exact absurd (hpayload.symm.trans huplink) nofun
  | other _ htracker => exact absurd hsource htracker

theorem Delivered.uplink (h : Delivered P event origin)
    (hsource : event.header.source = .netlinkCollector) {o : UplinkObservation}
    (hpayload : event.payload = .uplink o) :
    ∃ after, origin = some after ∧
      event.payload = NetlinkCollector.uplinkPayload (select after) ∧
      event.header.validity = (select after).validity := by
  cases h with
  | tracker _ htracker => exact absurd (hsource.symm.trans htracker) nofun
  | collector _ after hannounces =>
    cases hannounces with
    | fact hfact =>
      rw [hpayload] at hfact
      cases hfact
    | uplink huplink hvalidity => exact ⟨after, rfl, huplink, hvalidity⟩
  | other hcollector => exact absurd hsource hcollector

structure Audited (P : TopologySnapshot → SocketRouteContextObservation → Prop)
    (policy : AcceptedPolicy) (s : IncidentFeed) : Prop where
  published : Published P s
  policy : s.incidents.policy = policy
  metered : ∀ key, IncidentEngine.aboutRouting key.type = true → s.incidents.Metered key
  length : ∀ key, IncidentEngine.aboutRouting key.type = true →
    (s.counted key).length = s.incidents.streakAt key
  entries : ∀ key, IncidentEngine.aboutRouting key.type = true → ∀ entry ∈ s.counted key,
    Delivered P entry.2.1 entry.2.2 ∧ entry.1.Accuses entry.2.1 key

variable {policy : AcceptedPolicy}
theorem audited_initial (P : TopologySnapshot → SocketRouteContextObservation → Prop) (netns : NetnsId)
    (hinode : netns.inode ≠ 0) (config : SocketLifecycleConfig) (policy : AcceptedPolicy) :
    Audited P policy (initial netns hinode config policy) :=
  ⟨⟨tracking_create netns hinode config, rfl, rfl, forall_mem_nil _, forall_mem_nil _⟩, rfl,
    fun key _ => metered_initial policy key, fun _ _ => rfl,
    fun _ _ _ hentry => absurd hentry not_mem_nil⟩

section
variable (h : Audited P policy s)
include h
theorem Audited.handled (hkey : aboutRouting key.type) (event : NetworkEvent)
    (origin : Option TopologySnapshot) :
    IncidentEngine.Handled key (s.incidents.Accuses event key) s.incidents
      (s.deliver event origin).incidents :=
  handled_process (h.metered key hkey) hkey event

theorem Audited.deliver_counted (hkey : aboutRouting key.type)
    (hdelivered : Delivered P event origin) :
    ((s.deliver event origin).counted key).length =
        (s.deliver event origin).incidents.streakAt key ∧
      ∀ entry ∈ (s.deliver event origin).counted key,
        Delivered P entry.2.1 entry.2.2 ∧ entry.1.Accuses entry.2.1 key := by
  have hcounted : (s.deliver event origin).counted key =
      if (s.deliver event origin).incidents.streakAt key = 0 then []
      else if s.incidents.streakAt key < (s.deliver event origin).incidents.streakAt key then
        s.counted key ++ [(s.incidents, event, origin)]
      else s.counted key := rfl
  cases (h.handled hkey event origin).turn with
  | reset hstreak _ =>
    rw [hcounted, if_pos hstreak, hstreak]
    exact ⟨rfl, forall_mem_nil _⟩
  | same hstreak _ =>
    rw [hcounted, hstreak]
    split_ifs with hzero hless
    · exact ⟨hzero.symm, forall_mem_nil _⟩
    · exact absurd hless (lt_irrefl _)
    · exact ⟨h.length key hkey, h.entries key hkey⟩
  | counted hbad hstreak _ _ =>
    rw [hcounted, hstreak, if_neg (Nat.succ_ne_zero _), if_pos (Nat.lt_succ_self _),
      length_append, h.length key hkey]
    exact ⟨rfl, forall_mem_append.mpr
      ⟨h.entries key hkey, forall_mem_singleton.mpr ⟨hdelivered, hbad⟩⟩⟩

theorem Audited.deliver (hdelivered : Delivered P event origin) :
    Audited P policy (s.deliver event origin) where
  published := { h.published with }
  policy := by
    have hkey : aboutRouting (⟨.uplinkUnavailable, .netns ⟨0, 0⟩⟩ : IncidentKey).type := rfl
    exact (h.handled hkey event origin).policy.trans h.policy
  metered key hkey := (h.handled hkey event origin).metered (h.metered key hkey)
  length _ hkey := (h.deliver_counted hkey hdelivered).1
  entries _ hkey := (h.deliver_counted hkey hdelivered).2

theorem Audited.step (op : Op)
    (hcomputed : ∀ feed, op = .feed feed → ∀ context ∈ s.feed.computes netlinkClock clock feed,
      P (snapshotOf netlinkClock s.feed feed) context) :
    Audited P policy (s.step netlinkClock clock op) := by
  cases op with
  | feed op =>
    exact ⟨h.published.step op (hcomputed op rfl), h.policy, h.metered, h.length, h.entries⟩
  | deliver message =>
    rw [IncidentFeed.step]
    cases hfind : s.find message with
    | none => exact h
    | some => exact h.deliver (h.published.delivered hfind)

theorem Audited.activates {op : Op} (hkey : aboutRouting key.type)
    (hactivates : Activates netlinkClock clock s op key) :
    (s.step netlinkClock clock op).incidents.streakAt key = policy.activationConsecutive ∧
      ∃ message event, op = .deliver message ∧ s.find message = some event ∧
        Delivered P event (s.origin message) ∧ s.incidents.Accuses event key := by
  obtain ⟨hidle, hactive⟩ := hactivates
  cases op with
  | feed => exact absurd (hidle.symm.trans hactive) nofun
  | deliver message =>
    rw [IncidentFeed.step] at hactive ⊢
    cases hfind : s.find message with
    | none =>
      rw [hfind] at hactive
      exact absurd (hidle.symm.trans hactive) nofun
    | some event =>
      rw [hfind] at hactive
      have hhandled := h.handled hkey event (s.origin message)
      cases hhandled.turn with
      | reset _ hkept => exact absurd (hidle.symm.trans (hkept hactive)) nofun
      | same _ hkept => exact absurd (hidle.symm.trans (hkept.symm.trans hactive)) nofun
      | counted hbad _ hopened _ =>
        refine ⟨?_, message, event, rfl, hfind, h.published.delivered hfind, hbad⟩
        rw [← h.policy, ← hhandled.policy]
        exact hopened hactive hidle
end

def Complete (topology : TopologySnapshot) : Prop :=
  topology.authoritative = true ∧ topology.partly = false ∧ topology.degraded = false

/-- The snapshot of the event is complete, and for a route that of the namespace of a socket which
the engine knows as active. -/
inductive Proves (e : IncidentEngine) (event : NetworkEvent) :
    Option TopologySnapshot → IncidentKey → Prop
  | uplink (snapshot : TopologySnapshot) (hcomplete : Complete snapshot)
    (hpayload : event.payload = NetlinkCollector.uplinkPayload (UplinkPolicy.select snapshot))
    (hvalidity : event.header.validity = (UplinkPolicy.select snapshot).validity) :
    Proves e event (some snapshot) ⟨.uplinkUnavailable, .netns event.header.netns⟩
  | route (socket : SocketObservation) (topology : TopologySnapshot) (uplink : UplinkSelection)
    (hcomplete : Complete topology) (hnetns : topology.netns = socket.tuple.netns)
    (hpayload : event.payload =
      .socketRoute (SocketRouteAttributor.attributeSocket socket topology uplink))
    (hactive : e.authoritativeSockets.find? socket.id = some true) :
    Proves e event (some topology) ⟨.routeUnavailable, .socket socket.id⟩

def IsAttribution (topology : TopologySnapshot) (context : SocketRouteContextObservation) : Prop :=
  ∃ socket uplink, context = SocketRouteAttributor.attributeSocket socket topology uplink

theorem computes_isAttribution {f : RouteFeed} (h : f.tracker.Tracking) (op : RouteFeed.Op) :
    ∀ context ∈ f.computes netlinkClock clock op,
      IsAttribution (snapshotOf netlinkClock f op) context := by
  intro context hcontext
  cases op with
  | collector op =>
    obtain ⟨committed, hcommitted, hcontext⟩ := mem_flatMap.mp hcontext
    obtain ⟨-, o, -, rfl⟩ := mem_contextsOf.mp hcontext
    rcases handed_cases f op with hnone | ⟨uplink, hpair, -⟩
    · rw [hnone] at hcommitted
      cases hcommitted
    · rw [hpair, mem_singleton] at hcommitted
      rw [hcommitted]
      exact ⟨o, uplink, rfl⟩
  | readCopy | setRouteAttributor => cases hcontext
  | reconcile =>
    obtain ⟨-, o, rfl, -⟩ := mem_reconcile_computes h hcontext
    exact ⟨o, _, rfl⟩
  | recomputeRouteContexts =>
    obtain ⟨-, o, -, rfl⟩ := mem_contextsOf.mp hcontext
    exact ⟨o, _, rfl⟩

theorem complete_of_uplinkVerdict {snapshot : TopologySnapshot}
    (hbad : (IncidentEngine.Working.uplinkVerdict (select snapshot).interface.isSome
      (select snapshot).validity).evaluation = .bad) : Complete snapshot := by
  cases hinterface : (select snapshot).interface with
  | some =>
    rw [hinterface, IncidentEngine.Working.uplinkVerdict] at hbad
    split_ifs at hbad with _ hnone
    exact absurd hnone.1 nofun
  | none =>
    rw [hinterface, select_none hinterface] at hbad
    split_ifs at hbad with hcomplete
    · simp only [Bool.and_eq_true, Bool.not_eq_true'] at hcomplete
      exact ⟨hcomplete.1.1, hcomplete.1.2, hcomplete.2⟩
    · cases hbad

theorem proves_of_accuses {e : IncidentEngine}
    (hdelivered : Delivered IsAttribution event origin) (haccuses : e.Accuses event key)
    (htype : key.type ≠ .socketRouteConflict) : Proves e event origin key := by
  cases haccuses with
  | uplink _ hsource hpayload hbad =>
    obtain ⟨after, rfl, huplink, hvalidity⟩ := hdelivered.uplink hsource hpayload
    refine .uplink after ?_ huplink hvalidity
    cases hpayload.symm.trans huplink
    rw [hvalidity] at hbad
    exact complete_of_uplinkVerdict hbad
  | missing route hsource hpayload hknown hstatus _ hquality =>
    obtain ⟨topology, rfl, socket, uplink, rfl⟩ := hdelivered.context hsource hpayload
    obtain ⟨husable, hpartly, hdegraded, -⟩ := attributeTuple_missing
      hstatus hquality.1 hquality.2.1 hquality.2.2
    simp only [usable, Bool.and_eq_true, beq_iff_eq] at husable
    have hid : (attributeSocket socket topology uplink).socketId =
        socket.id := (attributeTuple_frame _ _ _ _ _).1
    rw [hid] at hknown ⊢
    exact .route socket topology uplink ⟨husable.2, hpartly, hdegraded⟩ husable.1.symm hpayload
      hknown
  | conflict => exact absurd rfl htype

variable (netlinkClock clock) in
/-- In every run, an incident about an absent uplink or route is activated by exactly as many
bad evaluations as the policy asks for, and the snapshot of each evaluation that is ever counted
is complete. -/
theorem absence_proven (netns : NetnsId) (hinode : netns.inode ≠ 0)
    (config : SocketLifecycleConfig) (policy : AcceptedPolicy) (ops : List Op) :
    AllSteps (step netlinkClock clock) (fun s op => ∀ key : IncidentKey,
      key.type = .uplinkUnavailable ∨ key.type = .routeUnavailable →
        let s' := s.step netlinkClock clock op
        (s'.counted key).length = s'.incidents.streakAt key ∧
        (∀ entry ∈ s'.counted key, Proves entry.1 entry.2.1 entry.2.2 key) ∧
        (Activates netlinkClock clock s op key →
          (s'.counted key).length = policy.activationConsecutive))
      (initial netns hinode config policy) ops := by
  have hstep : ∀ s op, Audited IsAttribution policy s →
      Audited IsAttribution policy (s.step netlinkClock clock op) := by
    intro s op hs
    apply hs.step op
    exact fun feed _ => computes_isAttribution hs.published.tracking feed
  apply allSteps_of_invariant _ hstep (audited_initial IsAttribution netns hinode config policy)
  intro s op hs key htype s'
  have hkey : aboutRouting key.type := by
    rcases htype with htype | htype
    all_goals
      rw [htype]
      rfl
  have hne : key.type ≠ .socketRouteConflict := by
    rcases htype with htype | htype
    all_goals
      rw [htype]
      nofun
  have hnext := hstep s op hs
  refine ⟨hnext.length key hkey, fun entry hentry => ?_, fun hactivates => ?_⟩
  · obtain ⟨hdelivered, haccuses⟩ := hnext.entries key hkey entry hentry
    exact proves_of_accuses hdelivered haccuses hne
  · rw [hnext.length key hkey]
    exact (hs.activates hkey hactivates).1

def Specified (remote : SocketEndpoint) : Prop :=
  remote.address ≠ Address.zero ∧ remote.port ≠ 0

instance (remote : SocketEndpoint) : Decidable (Specified remote) :=
  inferInstanceAs (Decidable (remote.address ≠ Address.zero ∧ remote.port ≠ 0))

def Destined (netlinkClock : ℕ → RealtimeTime × MonotonicTime) (clock : Clock)
    (s : IncidentFeed) (op : Op) : Prop :=
  ∀ key : IncidentKey, key.type = .routeUnavailable ∨ key.type = .socketRouteConflict →
    Activates netlinkClock clock s op key →
      ∃ message event context, op = .deliver message ∧ s.find message = some event ∧
        event.payload = .socketRoute context ∧ key.scope = .socket context.socketId ∧
        Specified context.destination

/-- The socket has a destination; or its attribution cannot blame it, because a modelled route
matches its unspecified remote endpoint, unless the snapshot is reserved about absence anyway,
and because it reports no interface. -/
def Blameless (topology : TopologySnapshot) (tuple : SocketTuple) (diagIfindex : Option ℕ) :
    Prop :=
  Specified tuple.remoteEnd ∨
    (SocketRouteAttributor.usable tuple topology = true → topology.partly = false →
      topology.degraded = false → SocketRouteAttributor.Routed tuple.remoteEnd topology) ∧
    diagIfindex.getD 0 = 0

def Covered (netlinkClock : ℕ → RealtimeTime × MonotonicTime) (s : IncidentFeed) : Op → Prop
  | .feed (.collector op) => s.feed.tracker.attributes = true →
      ∀ committed ∈ s.feed.handed netlinkClock op,
        ∀ o ∈ SocketTracker.activeSockets s.feed.tracker.lifecycle,
          Blameless committed.1 o.tuple o.diagIfindex
  | .feed (.reconcile inet inet6) => s.feed.tracker.attributes = true →
      ∀ record ∈ (s.feed.tracker.reported inet inet6).getD [],
        Blameless s.feed.copied.1 record.tuple record.diagIfindex
  | .feed (.recomputeRouteContexts topology _) => s.feed.tracker.attributes = true →
      ∀ o ∈ SocketTracker.activeSockets s.feed.tracker.lifecycle,
        Blameless topology o.tuple o.diagIfindex
  | _ => True

def Harmless (context : SocketRouteContextObservation) : Prop :=
  ∀ (e : IncidentEngine) (event : NetworkEvent) (key : IncidentKey),
    event.payload = .socketRoute context → e.Accuses event key → Specified context.destination

theorem harmless_attributeSocket {o : SocketObservation} {topology : TopologySnapshot}
    (h : Blameless topology o.tuple o.diagIfindex) (uplink : UplinkSelection) :
    Harmless (attributeSocket o topology uplink) := by
  intro e event key hpayload haccuses
  have hdestination : (attributeSocket o topology uplink).destination =
      o.tuple.remoteEnd := (attributeTuple_frame _ _ _ _ _).2
  rw [hdestination]
  rcases h with hspecified | ⟨hrouted, hdiag⟩
  · exact hspecified
  · cases haccuses with
    | uplink _ _ hother => exact absurd (hpayload.symm.trans hother) nofun
    | missing _ _ hother _ hstatus _ hquality =>
      cases hpayload.symm.trans hother
      obtain ⟨husable, hpartly, hdegraded, hnone⟩ := attributeTuple_missing
        hstatus hquality.1 hquality.2.1 hquality.2.2
      exact absurd (hrouted husable hpartly hdegraded) (candidates_eq_nil.mp hnone)
    | conflict _ _ hother _ hconflict =>
      cases hpayload.symm.trans hother
      obtain ⟨-, hzero, -⟩ := diagIfindexConflicts_iff.mp hconflict
      exact absurd hdiag hzero

theorem computes_harmless (h : s.feed.tracker.Tracking) {op : RouteFeed.Op}
    (hcovered : Covered netlinkClock s (.feed op)) :
    ∀ context ∈ s.feed.computes netlinkClock clock op, Harmless context := by
  intro context hcontext
  cases op with
  | collector =>
    obtain ⟨committed, hcommitted, hcontext⟩ := mem_flatMap.mp hcontext
    obtain ⟨hattributes, o, ho, rfl⟩ := mem_contextsOf.mp hcontext
    exact harmless_attributeSocket (hcovered hattributes committed hcommitted o ho) _
  | readCopy | setRouteAttributor => cases hcontext
  | reconcile =>
    obtain ⟨hattributes, o, rfl, record, hrecord, htuple, hdiag⟩ :=
      mem_reconcile_computes h hcontext
    apply harmless_attributeSocket
    rw [htuple, hdiag]
    exact hcovered hattributes record hrecord
  | recomputeRouteContexts _ uplink =>
    obtain ⟨hattributes, o, ho, rfl⟩ := mem_contextsOf.mp hcontext
    exact harmless_attributeSocket (hcovered hattributes o ho) uplink

theorem Audited.destined (h : Audited (fun _ => Harmless) policy s) (op : Op) :
    Destined netlinkClock clock s op := by
  intro key htype hactivates
  have hkey : aboutRouting key.type := by
    rcases htype with htype | htype
    all_goals
      rw [htype]
      rfl
  obtain ⟨-, message, event, hop, hfind, hdelivered, haccuses⟩ := h.activates hkey hactivates
  have hagain := haccuses
  cases haccuses with
  | uplink => exact absurd htype (by simp)
  | missing route hsource hpayload | conflict route hsource hpayload =>
    obtain ⟨_, -, hharmless⟩ := hdelivered.context hsource hpayload
    exact ⟨message, event, route, hop, hfind, hpayload, rfl,
      hharmless _ event _ hpayload hagain⟩

variable (netlinkClock clock) in
/-- In a run that attributes blameless sockets only, every incident about the route of a socket is
activated for a socket with a destination. -/
theorem route_incidents_destined (netns : NetnsId) (hinode : netns.inode ≠ 0)
    (config : SocketLifecycleConfig) (policy : AcceptedPolicy) (ops : List Op)
    (hcovered : AllSteps (step netlinkClock clock) (Covered netlinkClock)
      (initial netns hinode config policy) ops) :
    AllSteps (step netlinkClock clock) (Destined netlinkClock clock)
      (initial netns hinode config policy) ops := by
  apply hcovered.imp _ _ (audited_initial (fun _ => Harmless) netns hinode config policy)
  · exact fun s op hs _ => hs.destined op
  · intro s op hs hop
    apply hs.step op
    rintro feed rfl
    exact computes_harmless hs.published.tracking hop

section Sample

def listeningRecord : SocketDiagRecord :=
  { SocketTracker.sampleRecord (some 2) 0 none with
    tuple :=
      { netns := ⟨4, 1⟩
        protocol := .tcp
        family := afInet6
        localEnd := ⟨afInet6, Address.zero, 22⟩
        remoteEnd := ⟨afInet6, Address.zero, 0⟩ }
    tcpState := 10 }

def sampleStep : IncidentFeed → Op → IncidentFeed :=
  step NetlinkCollector.sampleClock SocketTracker.sampleClock

def sampleInitial : IncidentFeed :=
  initial ⟨4, 1⟩ Nat.one_ne_zero
    (SocketLifecycleTable.sampleConfig 3)
    ⟨.standard, IncidentPolicy.standard_accepted⟩

def sampleCommit (snapshot : TopologySnapshot) : Op :=
  .feed (.collector (.reconcile false (.hook (some snapshot))))

def sampleReconcile (record : SocketDiagRecord) : Op :=
  .feed (.reconcile (.hook (some [record])) (.hook (some [])))

theorem absence_proven_sample :
    let s := run sampleStep sampleInitial [sampleCommit (SocketRouteAttributor.sampleTopology []),
      sampleCommit (SocketRouteAttributor.sampleTopology []), .deliver (.fromCollector 1 1),
      .deliver (.fromCollector 2 2)]
    s.incidents.activeAt ⟨.uplinkUnavailable, .netns ⟨4, 1⟩⟩ ∧
      (s.counted ⟨.uplinkUnavailable, .netns ⟨4, 1⟩⟩).length = 2 ∧
      ∀ entry ∈ s.counted ⟨.uplinkUnavailable, .netns ⟨4, 1⟩⟩,
        Proves entry.1 entry.2.1 entry.2.2 ⟨.uplinkUnavailable, .netns ⟨4, 1⟩⟩ := by
  have hall := absence_proven NetlinkCollector.sampleClock sampleClock ⟨4, 1⟩
    (by decide) (SocketLifecycleTable.sampleConfig 3)
    ⟨.standard, IncidentPolicy.standard_accepted⟩
    [sampleCommit (sampleTopology []),
      sampleCommit (sampleTopology []), .deliver (.fromCollector 1 1),
      .deliver (.fromCollector 2 2)]
  have hlast := hall.2.2.2.1 ⟨.uplinkUnavailable, .netns ⟨4, 1⟩⟩ (.inl rfl)
  refine ⟨by decide +kernel, hlast.2.2 ⟨by decide +kernel, by decide +kernel⟩, hlast.2.1⟩

def sampleListening : IncidentFeed :=
  run sampleStep sampleInitial [.feed (.setRouteAttributor true),
    sampleCommit RouteFeed.sampleSnapshot, .feed .readCopy, sampleReconcile listeningRecord,
    .deliver (.fromTracker 0 1), .deliver (.fromTracker 1 2), sampleReconcile listeningRecord]

/-- The second context of the listening socket makes its route an incident. -/
theorem listening_socket_blamed :
    ¬ Destined NetlinkCollector.sampleClock SocketTracker.sampleClock sampleListening
      (.deliver (.fromTracker 3 3)) := by
  have hactivates : Activates NetlinkCollector.sampleClock sampleClock
      sampleListening (.deliver (.fromTracker 3 3))
      ⟨.routeUnavailable, .socket ⟨⟨4, 1⟩, some 2, 1⟩⟩ :=
    ⟨by decide +kernel, by decide +kernel⟩
  have hzero : (sampleListening.find (.fromTracker 3 3)).any (fun event =>
      (routeContext event.payload).any fun context =>
        decide (¬ Specified context.destination)) := by
    decide +kernel
  intro hdestined
  obtain ⟨_, event, context, hop, hfind, hpayload, -, hspecified⟩ :=
    hdestined _ (.inl rfl) hactivates
  cases hop
  rw [hfind, Option.any_some, hpayload] at hzero
  exact of_decide_eq_true hzero hspecified

def dualTopology : TopologySnapshot :=
  SocketRouteAttributor.sampleTopology [SocketRouteAttributor.defaultRoute,
    { SocketRouteAttributor.defaultRoute with family := afInet6, gateway := none }]

theorem route_incidents_destined_sample :
    AllSteps sampleStep (Destined NetlinkCollector.sampleClock SocketTracker.sampleClock)
      sampleInitial [.feed (.setRouteAttributor true), sampleCommit dualTopology,
        .feed .readCopy, sampleReconcile listeningRecord, .deliver (.fromTracker 0 1),
        .deliver (.fromTracker 1 2)] := by
  refine route_incidents_destined NetlinkCollector.sampleClock sampleClock ⟨4, 1⟩
    (by decide) (SocketLifecycleTable.sampleConfig 3)
    ⟨.standard, IncidentPolicy.standard_accepted⟩ _
    ⟨trivial, ?_, trivial, ?_, trivial, trivial, trivial⟩
  · intro _ committed _ o ho
    cases ho
  · intro _ record hrecord
    obtain rfl := mem_singleton.mp hrecord
    refine .inr ⟨fun _ _ _ => ?_, rfl⟩
    exact ⟨{ defaultRoute with family := afInet6, gateway := none },
      by decide +kernel, by decide +kernel, by decide +kernel⟩
end Sample
end IncidentFeed
end WeakNet
