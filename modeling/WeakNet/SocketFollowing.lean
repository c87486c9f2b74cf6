import WeakNet.EventBusGuarantees
import WeakNet.IncidentSockets
import WeakNet.SocketTrackerRuns

/-! The tracker announces the sockets of a commit that are new, changed or gone; the bus may refuse
any of these events, and one that was dropped is not repeated: later commits compare with the table
and not with what was accepted. -/

namespace WeakNet.SocketTracker
open Foundation Foundation.Runs IncidentEngine List EventBus SocketObservation
open SocketLifecycleTable (Sound)

variable {t t' : SocketTracker} {clock : Clock}
def activeIds (table : SocketLifecycleTable) : Set SocketId :=
  {id | ∃ o ∈ activeSockets table, o.id = id}

structure Proper (items : List SocketObservation) : Prop where
  live : ∀ o ∈ items, o.present = true ∧ o.lifecycle = .active ∧ o.validity = .valid
  apart : ∀ o ∈ items, ∀ o' ∈ items, ¬Displaces o.id o'.id

variable {items before : List SocketObservation} {event : NetworkEvent} {o : SocketObservation}
    {events : List NetworkEvent} {table : SocketLifecycleTable}
theorem Proper.subset {part : List SocketObservation} (h : Proper items) (hpart : part ⊆ items) :
    Proper part :=
  ⟨fun o ho => h.live o (hpart ho), fun o ho o' ho' => h.apart o (hpart ho) o' (hpart ho')⟩

theorem proper_committed (h : Sound t.lifecycle) (records : List SocketDiagRecord) :
    Proper (activeSockets (committedTable clock t records)) := by
  refine ⟨fun o ho => ?_, fun o ho o' ho' hdisplaces => ?_⟩
  · obtain ⟨id, hid⟩ := mem_activeSockets.mp ho
    obtain ⟨k, record, -, -, -, -, rfl⟩ := committed_record h hid
    exact ⟨rfl, rfl, rfl⟩
  · obtain ⟨id, hid⟩ := mem_activeSockets.mp ho
    obtain ⟨_, hid'⟩ := mem_activeSockets.mp ho'
    have hsound : Sound (committedTable clock t records) := sound_committedTable h records
    have hdistinct := SocketLifecycleTable.indexes_distinct hsound.consistent.cookieActive
      hsound.consistent.weakActive ⟨o, hid, rfl⟩ ⟨o', hid', rfl⟩
    obtain ⟨k, record, -, -, -, -, rfl⟩ := committed_record h hid
    obtain ⟨_, _, -, -, -, -, rfl⟩ := committed_record h hid'
    obtain ⟨hcookie, hne, hnetns, hsame⟩ := hdisplaces
    obtain ⟨cookie, hsome⟩ := Option.isSome_iff_exists.mp hcookie
    -- The evidence of both identities is the one cookie, under which one entry is active.
    apply hne
    refine (hdistinct ?_).symm
    simp only [SocketLifecycleTable.makeObservation] at hsome hnetns hsame
    simp [SocketLifecycleTable.evidenceOf, SocketLifecycleTable.evidenceFor, hsame, hsome, hnetns]

theorem drafted_source {α : Type}
    {draft : SocketTracker → α → NetworkEventHeader × NetworkEventPayload} {a : α}
    (h : Drafted draft event a) (hsource : ∀ s, (draft s a).1.source = .socketTracker) :
    event.header.source = .socketTracker := by
  obtain ⟨s, hs⟩ := h
  rw [(Prod.mk.inj hs).1]
  exact hsource s

section
variable (h : Drafted socketEvent event o)
include h
theorem absorb_drafted (sockets : Set SocketId) :
    absorbSockets sockets event = absorbSocket sockets o.validity o := by
  have hsource := drafted_source h fun _ => rfl
  obtain ⟨_, hs⟩ := h
  obtain ⟨hheader, hpayload⟩ := Prod.mk.inj hs
  rw [absorbSockets_socket sockets hsource hpayload, hheader]
  rfl

theorem drafted_binding : socketReader.binding event := by
  refine ⟨drafted_source h fun _ => rfl, o, ?_⟩
  obtain ⟨_, hs⟩ := h
  exact (Prod.mk.inj hs).2

theorem leads_cons {sockets next after : Set SocketId}
    (habsorb : absorbSocket sockets o.validity o = next)
    (hrest : socketReader.Leads next events after) :
    socketReader.Leads sockets (event :: events) after := by
  refine ⟨fun hidle => absurd (drafted_binding h) hidle, ?_⟩
  change socketReader.Leads (absorbSockets sockets event) events after
  rw [absorb_drafted h, habsorb]
  exact hrest
end

section
variable (h : Forall₂ (Drafted socketEvent) events items)
include h
theorem leads_live (hproper : Proper items) (sockets : Set SocketId) :
    socketReader.Leads sockets events
      {id | id ∈ sockets ∧ (∀ o ∈ items, ¬Displaces o.id id) ∨ ∃ o ∈ items, o.id = id} := by
  induction h generalizing sockets with
  | nil => exact Set.ext fun id => by simp
  | @cons _ o _ items hfirst _ ih =>
    have hrest := ih (hproper.subset (subset_cons_self o items))
    obtain ⟨hpresent, hactive, hvalid⟩ := hproper.live o mem_cons_self
    apply leads_cons hfirst (if_pos ⟨hpresent, hactive, hvalid, hvalid⟩)
    convert hrest (insert o.id (remaining sockets o.id)) using 1
    ext id
    have hkept : ∀ o' ∈ items, ¬Displaces o'.id o.id := fun o' ho' =>
      hproper.apart o' (mem_cons_of_mem o ho') o mem_cons_self
    simp only [forall_mem_cons, exists_mem_cons_iff, Set.mem_insert_iff, remaining]
    grind

theorem leads_closed (hgone : ∀ o ∈ items, o.present = false) (sockets : Set SocketId) :
    socketReader.Leads sockets events {id | id ∈ sockets ∧ ∀ o ∈ items, o.id ≠ id} := by
  induction h generalizing sockets with
  | nil => exact Set.ext fun id => by simp
  | @cons _ o _ _ hfirst _ ih =>
    have hrest := ih fun o' ho' => hgone o' (mem_cons_of_mem o ho')
    have hpresent := hgone o mem_cons_self
    have habsorb : absorbSocket sockets o.validity o = sockets \ {o.id} := by
      rw [absorbSocket, if_neg (by simp [hpresent]), if_pos (by simp [hpresent])]
    apply leads_cons hfirst habsorb
    convert hrest (sockets \ {o.id}) using 1
    ext id
    simp only [forall_mem_cons, Set.mem_sdiff, Set.mem_singleton_iff]
    grind
end

theorem closedSockets_ids (clock : Clock) (before after : List SocketObservation) (reads : ℕ) :
    (closedSockets clock before after reads).map SocketObservation.id =
      (before.filter fun item => !after.any fun o => o.id == item.id).map
        SocketObservation.id := by
  rw [closedSockets, map_map]
  generalize before.filter _ = gone
  calc gone.zipIdx.map _ = (gone.zipIdx.map Prod.fst).map SocketObservation.id := by
        rw [map_map]
        rfl
    _ = gone.map SocketObservation.id := by rw [zipIdx_map_fst]

variable {after : List SocketObservation} {reads : ℕ} {id : SocketId}
theorem mem_closedSockets :
    (∃ o ∈ closedSockets clock before after reads, o.id = id) ↔
      (∃ o ∈ before, o.id = id) ∧ ∀ o ∈ after, o.id ≠ id := by
  rw [← mem_map, closedSockets_ids, mem_map]
  simp only [mem_filter, Bool.not_eq_true', any_eq_false, beq_iff_eq]
  refine ⟨fun h => ?_, fun h => ?_⟩
  · obtain ⟨o, ⟨ho, hgone⟩, rfl⟩ := h
    exact ⟨⟨o, ho, rfl⟩, hgone⟩
  · obtain ⟨⟨o, ho, rfl⟩, hgone⟩ := h
    exact ⟨o, ⟨ho, hgone⟩, rfl⟩

theorem closedSockets_gone :
    ∀ o ∈ closedSockets clock before after reads, o.present = false := by
  intro o ho
  obtain ⟨_, -, rfl⟩ := mem_map.mp ho
  rfl

theorem mem_of_not_changed (h : changed before o = false) : ∃ old ∈ before, old.id = o.id := by
  rw [changed] at h
  cases hfind : before.find? fun old => old.id == o.id with
  | none =>
    rw [hfind] at h
    cases h
  | some old =>
    have hid := List.find?_some hfind
    exact ⟨old, mem_of_find?_eq_some hfind, beq_iff_eq.mp hid⟩

theorem leads_announced (hproper : Proper (activeSockets table))
    (h : Forall₂ (Drafted socketEvent) events (announced clock t table)) :
    socketReader.Leads (activeIds t.lifecycle) events (activeIds table) := by
  rw [announced] at h
  generalize hlive : (activeSockets table).filter _ = live at h
  generalize hclosed : closedSockets _ _ _ _ = closed at h
  have hpart : live ⊆ activeSockets table := hlive ▸ filter_subset_self _
  have hgone : ∀ o ∈ closed, o.present = false := hclosed ▸ closedSockets_gone
  have hfirst := leads_live (forall₂_take_append events live closed h)
    (hproper.subset hpart) (activeIds t.lifecycle)
  have hsecond := leads_closed (forall₂_drop_append events live closed h) hgone
  rw [← take_append_drop live.length events]
  suffices htarget : activeIds table = {id | id ∈ {id | id ∈ activeIds t.lifecycle ∧
      (∀ o ∈ live, ¬Displaces o.id id) ∨ ∃ o ∈ live, o.id = id} ∧ ∀ o ∈ closed, o.id ≠ id} by
    rw [htarget]
    exact Leads.append hfirst (hsecond _)
  ext id
  have hleft : (∃ o ∈ closed, o.id = id) ↔
      (∃ o ∈ activeSockets t.lifecycle, o.id = id) ∧ ∀ o ∈ activeSockets table, o.id ≠ id :=
    hclosed ▸ mem_closedSockets
  have hkept : ∀ o ∈ activeSockets table, ∀ o' ∈ live, ¬Displaces o'.id o.id :=
    fun o ho o' ho' => hproper.apart o' (hpart ho') o ho
  refine ⟨fun hid => ?_, fun hid => ?_⟩
  · obtain ⟨o, ho, rfl⟩ := hid
    refine ⟨?_, fun c hc hcid => ?_⟩
    · by_cases hchanged : changed (activeSockets t.lifecycle) o
      · exact .inr ⟨o, hlive ▸ mem_filter.mpr ⟨ho, hchanged⟩, rfl⟩
      · exact .inl ⟨mem_of_not_changed (Bool.eq_false_iff.mpr hchanged), hkept o ho⟩
    · exact (hleft.mp ⟨c, hc, hcid⟩).2 o ho rfl
  · obtain ⟨⟨hbefore, -⟩ | ⟨o, ho, rfl⟩, hopen⟩ := hid
    · by_contra hafter
      obtain ⟨c, hc, hcid⟩ := hleft.mpr ⟨hbefore, fun o ho hoid => hafter ⟨o, ho, hoid⟩⟩
      exact hopen c hc hcid
    · exact ⟨o, hpart ho, rfl⟩

theorem remaining_activeIds (hproper : Proper (activeSockets table))
    (h : ∃ o ∈ activeSockets table, id = o.id) :
    remaining (activeIds table) id = activeIds table := by
  obtain ⟨o, ho, rfl⟩ := h
  apply remaining_eq_self
  intro id hid
  obtain ⟨o', ho', rfl⟩ := hid
  exact hproper.apart o ho o' ho'

theorem leads_contexts {contexts : List SocketRouteContextObservation}
    (h : Forall₂ (Drafted (contextEvent clock)) events contexts) (sockets : Set SocketId) :
    socketReader.Leads sockets events sockets := by
  apply Leads.idle
  intro event hevent
  obtain ⟨_, -, _, hs⟩ := Fallible.exists_right h hevent
  exact absorbSockets_socketRoute _ (Prod.mk.inj hs).2

theorem leads_published (hproper : Proper (activeSockets table))
    (h : Published clock t table t' none) :
    ∃ events, t'.published = t.published ++ events ∧
      socketReader.Leads (activeIds t.lifecycle) events (activeIds table) := by
  cases h with
  | done _ _ infos intervals hsockets hcontexts hinfos hintervals hmoved _ =>
    have hcontexts := leads_contexts hcontexts (activeIds table)
    have hsamples : socketReader.Leads (activeIds table) (infos ++ intervals)
        (activeIds table) := by
      apply Leads.idle
      intro event hevent
      rcases mem_append.mp hevent with hinfo | hinterval
      · obtain ⟨_, hmem, hdrafted⟩ := Fallible.exists_right hinfos hinfo
        obtain ⟨o, ho, rfl⟩ := mem_map.mp hmem
        have hsource := drafted_source hdrafted fun _ => rfl
        obtain ⟨s, hs⟩ := hdrafted
        exact (absorbSockets_tcpInfo _ hsource (Prod.mk.inj hs).2).trans
          (remaining_activeIds hproper ⟨o, ho, rfl⟩)
      · obtain ⟨metrics, hmem, hdrafted⟩ := Fallible.exists_right hintervals hinterval
        have hsource := drafted_source hdrafted fun _ => rfl
        obtain ⟨s, hs⟩ := hdrafted
        exact (absorbSockets_tcpInterval _ hsource (Prod.mk.inj hs).2).trans
          (remaining_activeIds hproper (sampleAll_ids t _ metrics hmem))
    exact ⟨_, hmoved.published,
      Leads.append (Leads.append (leads_announced hproper hsockets) hcontexts) hsamples⟩

variable (clock) in
theorem step_leads (h : Tracking t) (hthrew : t.threw = false) (op : Op) :
    (step clock t op).threw ∨ ∃ events, (step clock t op).published = t.published ++ events ∧
      socketReader.Leads (activeIds t.lifecycle) events
        (activeIds (step clock t op).lifecycle) := by
  have hstepped := step_stepped clock h hthrew op
  generalize step clock t op = next at hstepped
  cases hstepped with
  | failed _ _ table _ _ _ _ _ hlive =>
    have hsame : activeIds table = activeIds t.lifecycle := by
      rw [activeIds, activeIds, activeSockets, activeSockets, hlive.active]
    exact .inr ⟨[], (append_nil _).symm, hsame.symm⟩
  | committed _ _ records _ _ _ _ _ _ hpublished =>
    obtain ⟨events, hevents, hleads⟩ := leads_published (proper_committed h.sound records) hpublished
    obtain ⟨_, hmoved⟩ := hpublished.moved
    refine .inr ⟨events, hevents, ?_⟩
    rw [hmoved.lifecycle]
    exact hleads
  | interrupted => exact .inl rfl
  | recomputed _ _ _ _ events _ _ hdrafted hmoved =>
    refine .inr ⟨events, hmoved.published, ?_⟩
    rw [hmoved.lifecycle]
    exact leads_contexts hdrafted _
  | attributor => exact .inr ⟨[], (append_nil _).symm, rfl⟩

theorem activeIds_initial (config : SocketLifecycleConfig) :
    ∅ = activeIds (SocketLifecycleTable.initial config) := by
  ext id
  refine ⟨fun h => ?_, fun h => ?_⟩
  · cases h
  · obtain ⟨_, ho, -⟩ := h
    cases ho

/-- The published events tell the sockets of the table: a reader of all of them, or of all but some
that are no socket observations, ends with these. -/
theorem published_sockets_replay (clock : Clock) (netns : NetnsId) (hinode : netns.inode ≠ 0)
    (config : SocketLifecycleConfig) (ops : List Op) :
    let t := run (step clock) (create netns hinode config) ops
    t.threw = false → socketReader.Leads ∅ t.published (activeIds t.lifecycle) := by
  refine (run_invariant (P := fun t : SocketTracker => Tracking t ∧ (t.threw = false →
    socketReader.Leads ∅ t.published (activeIds t.lifecycle))) ?_
    ⟨tracking_create netns hinode config, fun _ => activeIds_initial config⟩ ops).2
  intro t op ⟨htracking, hleads⟩
  refine ⟨htracking.step op, fun hkept => ?_⟩
  by_cases hthrew : t.threw
  · rw [step_of_threw hthrew, hthrew] at hkept
    cases hkept
  · have hgoing := Bool.eq_false_of_not_eq_true hthrew
    rcases step_leads clock htracking hgoing op with hthrown | ⟨events, hevents, hstep⟩
    · rw [hkept] at hthrown
      cases hthrown
    · rw [hevents]
      exact (hleads hgoing).append hstep

theorem published_sample_replay :
    socketReader.Leads ∅ sampleTracker.published (activeIds sampleTracker.lifecycle) := by
  have hgoing : sampleTracker.threw = false := by decide +kernel
  unfold sampleTracker at hgoing ⊢
  exact published_sockets_replay _ _ _ _ _ hgoing
end WeakNet.SocketTracker

namespace WeakNet
open Foundation Foundation.Runs

/-- The tracker, the events it has not handed to the bus yet, the bus, and the incident engine
as one of its subscribers. -/
structure SocketView where
  tracker : SocketTracker
  outbox : List NetworkEvent
  bus : EventBus
  engine : IncidentEngine

namespace SocketView
open IncidentEngine
open SocketTracker (Tracking activeIds)

/-- What other producers publish: events of other sources, or route contexts, which the tracker
also computes on another thread. -/
def Foreign (event : NetworkEvent) : Prop :=
  event.header.source = .socketTracker → event.header.kind = .socketRouteObservation

def Permitted : EventBus.Op → Prop
  | .publish event => Foreign event
  | _ => True

/-- `track` is a call of the tracker, whose events `handOver` publishes one at a time; `bus` is
a section of the bus, with publications of other producers only. -/
inductive Op where
  | track (op : SocketTracker.Op)
  | handOver
  | bus (op : EventBus.Op) (permitted : Permitted op)

def handled (s : SocketView) : EventBus.Op → IncidentEngine
  | .complete =>
    match s.bus.dispatcher with
    | .delivering event => (s.engine.process event).1
    | _ => s.engine
  | _ => s.engine

def step (clock : Clock) (s : SocketView) : Op → SocketView
  | .track op =>
    let tracker := s.tracker.step clock op
    { s with
      tracker := tracker
      outbox := s.outbox ++ tracker.published.drop s.tracker.published.length }
  | .handOver =>
    match s.outbox with
    | [] => s
    | event :: outbox => { s with outbox := outbox, bus := (s.bus.publish event).1 }
  | .bus op _ => { s with engine := s.handled op, bus := s.bus.step op }

def initial (netns : NetnsId) (hinode : netns.inode ≠ 0) (config : SocketLifecycleConfig)
    (capacity : ℕ) (hcapacity : 0 < capacity) (policy : AcceptedPolicy) : SocketView where
  tracker := .create netns hinode config
  outbox := []
  bus := .create capacity hcapacity
  engine := .initial policy

def Drained (s : SocketView) : Prop :=
  s.outbox = [] ∧ s.bus.queue = [] ∧ s.bus.delivering = [] ∧ s.tracker.threw = false

def Agrees (s : SocketView) : Prop :=
  s.engine.authoritative = activeIds s.tracker.lifecycle

/-- A socket observation is handed over only when the bus has room for it. -/
def fits (s : SocketView) : Op → Bool
  | .handOver =>
    match s.outbox with
    | event :: _ => event.header.kind != .socketObservation || s.bus.hasRoom
    | [] => true
  | _ => true

def pending (s : SocketView) : List NetworkEvent :=
  s.bus.delivering ++ (s.bus.queue ++ s.outbox)

structure Following (s : SocketView) : Prop where
  tracking : Tracking s.tracker
  control : EventBus.Control s.bus
  leads : s.tracker.threw = false →
    socketReader.Leads s.engine.authoritative s.pending (activeIds s.tracker.lifecycle)

variable {s : SocketView} {clock : Clock}
theorem foreign_ignored {event : NetworkEvent} (h : Foreign event) :
    socketReader.Ignores event ∧ ¬socketReader.binding event := by
  by_cases hsource : event.header.source = .socketTracker
  · have hkind : kindFor event.payload = .socketRouteObservation :=
      event.kind_eq.symm.trans (h hsource)
    cases hpayload : event.payload with
    | socketRoute =>
      refine ⟨fun sockets => absorbSockets_socketRoute sockets hpayload, fun hbinding => ?_⟩
      obtain ⟨-, _, ho'⟩ := hbinding
      rw [hpayload] at ho'
      cases ho'
    | _ =>
      rw [hpayload] at hkind
      cases hkind
  · exact ⟨fun sockets => absorbSockets_foreign sockets hsource, fun h => hsource h.1⟩

section
variable (h : Following s)
include h
theorem Following.track (op : SocketTracker.Op) :
    Following (s.step clock (.track op)) := by
  refine ⟨h.tracking.step op, h.control, fun hnext => ?_⟩
  by_cases hthrew : s.tracker.threw
  · rw [step, SocketTracker.step_of_threw hthrew, hthrew] at hnext
    cases hnext
  · have hstep := SocketTracker.step_leads clock h.tracking (Bool.eq_false_iff.mpr hthrew) op
    rcases hstep with hthrown | ⟨events, hpublished, hleads⟩
    · rw [step, hthrown] at hnext
      cases hnext
    · have hpending : (s.step clock (.track op)).pending = s.pending ++ events := by
        simp [pending, step, hpublished]
      rw [hpending]
      exact Leads.append (h.leads (Bool.eq_false_iff.mpr hthrew)) hleads

theorem Following.handOver (hfits : s.fits .handOver) :
    Following (s.step clock .handOver) := by
  rw [step]
  rw [fits] at hfits
  cases houtbox : s.outbox with
  | nil => exact h
  | cons event =>
    rw [houtbox] at hfits
    refine ⟨h.tracking, h.control.publish event, fun hthrew => ?_⟩
    have hleads := h.leads hthrew
    rw [pending, houtbox] at hleads
    rw [pending, EventBus.delivering_publish]
    apply EventBus.Reader.Leads.publish hleads
    intro ⟨hsource, o, hpayload⟩
    have hkind : event.header.kind = .socketObservation := by
      rw [event.kind_eq, hpayload]
      rfl
    have hroom : s.bus.hasRoom := by
      rw [← hfits]
      simp [hkind]
    rw [EventBus.publish_of_hasRoom hroom]

theorem Following.quiet {bus : EventBus} (hcontrol : EventBus.Control bus)
    (hquiet : EventBus.Quiet s.bus bus) : Following { s with bus := bus } := by
  refine ⟨h.tracking, hcontrol, fun hthrew => ?_⟩
  have hleads := h.leads hthrew
  rw [pending, ← hquiet.queue, ← hquiet.delivering] at hleads
  exact hleads

theorem Following.take : Following { s with bus := s.bus.take } := by
  have hcontrol := h.control.step .take
  rcases s.bus.take_cases with ⟨_, hidle, hqueue, hphase⟩ | hquiet
  · refine ⟨h.tracking, hcontrol, fun hthrew => ?_⟩
    have hleads := h.leads hthrew
    rw [pending, hidle, hqueue] at hleads
    rw [pending, EventBus.delivering_eq hphase]
    exact hleads
  · exact h.quiet hcontrol hquiet

theorem Following.complete :
    Following { s with engine := s.handled .complete, bus := s.bus.complete } := by
  have hcontrol := h.control.step .complete
  rcases s.bus.complete_cases with ⟨event, hphase, hqueue, hidle⟩ | ⟨hidle, hsame⟩
  · refine ⟨h.tracking, hcontrol, fun hthrew => ?_⟩
    have hleads := h.leads hthrew
    rw [pending, EventBus.delivering_eq hphase] at hleads
    have hengine : (s.handled .complete).authoritative =
        absorbSockets s.engine.authoritative event := by
      rw [handled, hphase]
      exact authoritative_process ..
    rw [pending, hidle, hqueue, hengine]
    exact hleads.2
  · have hengine : s.handled .complete = s.engine := by
      rw [handled]
      split
      next event hphase =>
        rw [EventBus.delivering_eq hphase] at hidle
        cases hidle
      next => rfl
    rw [hsame, hengine]
    exact h

theorem Following.bus (op : EventBus.Op) (permitted : Permitted op) :
    Following (s.step clock (.bus op permitted)) := by
  cases op with
  | publish event =>
    obtain ⟨hignored, hbinding⟩ := foreign_ignored permitted
    refine ⟨h.tracking, h.control.publish event, fun hthrew => ?_⟩
    have hleads := (h.leads hthrew).publish_ignored hignored hbinding
    rw [← EventBus.delivering_publish s.bus event] at hleads
    exact hleads
  | take => exact h.take
  | complete => exact h.complete
  | start => exact h.quiet (h.control.step .start) (EventBus.quiet_start h.control)
  | stop fromDispatcher =>
    exact h.quiet (h.control.step (.stop fromDispatcher)) (EventBus.quiet_stop _ _)
  | joinDispatcher =>
    exact h.quiet (h.control.step .joinDispatcher) (EventBus.quiet_joinDispatcher _)
  | callbackFailed =>
    exact h.quiet (h.control.step .callbackFailed) (EventBus.quiet_callbackFailed _)
  | leave => exact h.quiet (h.control.step .leave) (EventBus.quiet_leave _)

theorem Following.step (op : Op) (hfits : s.fits op) :
    Following (s.step clock op) := by
  cases op with
  | track op => exact h.track op
  | handOver => exact h.handOver hfits
  | bus op permitted => exact h.bus ..
end

theorem following_initial (netns : NetnsId) (hinode : netns.inode ≠ 0)
    (config : SocketLifecycleConfig) (capacity : ℕ) (hcapacity : 0 < capacity)
    (policy : AcceptedPolicy) :
    Following (initial netns hinode config capacity hcapacity policy) := by
  refine ⟨SocketTracker.tracking_create netns hinode config, ?_, fun _ => ?_⟩
  · exact EventBus.control_create capacity hcapacity
  · have hnone : (IncidentEngine.initial policy).authoritative = ∅ :=
      Set.eq_empty_of_forall_notMem fun _ h => by cases h
    exact hnone.trans (SocketTracker.activeIds_initial config)

theorem Following.agrees (h : Following s) (hdrained : s.Drained) : s.Agrees := by
  obtain ⟨houtbox, hqueue, hidle, hthrew⟩ := hdrained
  have hleads := h.leads hthrew
  rw [pending, houtbox, hqueue, hidle] at hleads
  exact hleads

/-- In every run in which each socket observation finds room, the engine's sockets are those of
the table whenever everything on its way has arrived. -/
theorem sockets_followed (clock : Clock) (netns : NetnsId) (hinode : netns.inode ≠ 0)
    (config : SocketLifecycleConfig) (capacity : ℕ) (hcapacity : 0 < capacity)
    (policy : AcceptedPolicy) (ops : List Op)
    (hfits : AllSteps (step clock) (fun s op => s.fits op = true)
      (initial netns hinode config capacity hcapacity policy) ops) :
    let s := run (step clock) (initial netns hinode config capacity hcapacity policy) ops
    s.Drained → s.Agrees := by
  intro s hdrained
  have hfollowing : Following s := run_guarded (fun _ op h hfits => h.step op hfits)
    (following_initial netns hinode config capacity hcapacity policy) hfits
  exact hfollowing.agrees hdrained

section Sample
def sampleStep : SocketView → Op → SocketView := step SocketTracker.sampleClock

def sampleInitial (capacity : ℕ) (hcapacity : 0 < capacity) : SocketView :=
  initial ⟨4, 1⟩ Nat.one_ne_zero
    (SocketLifecycleTable.sampleConfig 3) capacity hcapacity
    ⟨.standard, IncidentPolicy.standard_accepted⟩

def sampleReconcile : List Op :=
  [.track (.reconcile (.hook (some [SocketTracker.sampleRecord (some 1) 80 none]))
    (.hook (some []))), .handOver, .handOver]

def sampleDispatch : List Op := [.bus .take trivial, .bus .complete trivial]

def sampleRun (noise : List Op) : List Op :=
  .bus .start trivial :: noise ++ sampleReconcile ++ sampleDispatch ++ sampleDispatch ++
    sampleReconcile ++ sampleDispatch

/-- Of three samples of another producer a queue of two drops one; the others are dispatched. -/
def otherProducer : List Op :=
  [.bus (.publish (EventBus.gauge 1 1 Nat.one_ne_zero Nat.one_ne_zero)) nofun,
    .bus (.publish (EventBus.gauge 2 2 (Nat.succ_ne_zero 1) (Nat.succ_ne_zero 1))) nofun,
    .bus (.publish (EventBus.gauge 3 3 (Nat.succ_ne_zero 2) (Nat.succ_ne_zero 2))) nofun] ++
    sampleDispatch ++ sampleDispatch

theorem sample_followed :
    let s := run sampleStep (sampleInitial 2 (by decide)) (sampleRun otherProducer)
    s.Drained ∧ s.Agrees ∧ s.bus.telemetry.totalDrops = 1 ∧
      ⟨⟨4, 1⟩, some 1, 1⟩ ∈ s.engine.authoritative := by
  intro s
  have hdrained : s.Drained := ⟨rfl, rfl, rfl, rfl⟩
  refine ⟨hdrained, ?_, by decide +kernel, by decide +kernel⟩
  exact sockets_followed SocketTracker.sampleClock ⟨4, 1⟩ (by decide)
    (SocketLifecycleTable.sampleConfig 3) 2 (by decide)
    ⟨.standard, IncidentPolicy.standard_accepted⟩ (sampleRun otherProducer) (by decide +kernel)
    hdrained

/-- A sample of another producer fills a queue of one when the socket is announced. The drop is
not made up for: the second commit finds the socket unchanged. -/
def sampleNoise : List Op :=
  [.bus (.publish (EventBus.gauge 1 1 Nat.one_ne_zero Nat.one_ne_zero)) nofun]

theorem dropped_socket_unknown :
    let s := run sampleStep (sampleInitial 1 (by decide)) (sampleRun sampleNoise)
    s.Drained ∧ ¬s.Agrees ∧ s.tracker.telemetry.authoritativeCommits = 2 := by
  refine ⟨⟨rfl, rfl, rfl, rfl⟩, fun hagrees => ?_, by decide +kernel⟩
  have hunknown : (⟨⟨4, 1⟩, some 1, 1⟩ : SocketId) ∉ (run sampleStep
      (sampleInitial 1 (by decide)) (sampleRun sampleNoise)).engine.authoritative := by
    decide +kernel
  have hactive : (⟨⟨4, 1⟩, some 1, 1⟩ : SocketId) ∈ (SocketTracker.activeSockets (run sampleStep
      (sampleInitial 1 (by decide)) (sampleRun sampleNoise)).tracker.lifecycle).map
        SocketObservation.id := by
    decide +kernel
  apply hunknown
  rw [hagrees]
  exact List.mem_map.mp hactive
end Sample
end SocketView
end WeakNet
