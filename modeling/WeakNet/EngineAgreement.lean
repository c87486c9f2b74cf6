import WeakNet.EventBusDelivery
import WeakNet.IncidentEmissions
import WeakNet.RootCauseGrounding

/-! Both engines are called with every event the bus delivers, in either order; what the incident
engine emits reaches the root cause engine through the queue. All observations emitted are those the
root cause engine has read, those under way, and those the running callback has yet to publish. It
goes by the source an event names, so no other producer may use that of the incident engine. The
64-bit counters of events and incidents cannot run out before the sequence numbers of the bus do. -/

namespace WeakNet
open List EventBus NetworkEvent

def NetworkEvent.news (event : NetworkEvent) : List IncidentObservation :=
  match event.payload, event.header.source with
  | .incident o, .incidentEngine => [o]
  | _, _ => []

theorem NetworkEvent.news_of_replaceable {event : NetworkEvent} (h : event.replaceable) :
    event.news = [] := by
  rw [news]
  split
  next o hpayload hsource =>
    rw [replaceable, event.kind_eq, hpayload] at h
    cases h
  next => rfl

theorem NetworkEvent.news_eq_nil_or (event : NetworkEvent) :
    event.news = [] ∨ ∃ o, event.news = [o] ∧ event.payload = .incident o ∧
      event.header.source = .incidentEngine := by
  rw [news]
  split
  next o hpayload hsource => exact .inr ⟨o, rfl, hpayload, hsource⟩
  next => exact .inl rfl

theorem EventBus.news_publish {bus : EventBus} {event : NetworkEvent}
    (h : event.news = [] ∨ (bus.publish event).2.accepted) :
    (bus.publish event).1.queue.flatMap news =
      bus.queue.flatMap news ++ event.news := by
  rcases publish_cases bus event with hrejected |
    ⟨-, -, -, before, removed, after, hold, hall, hnext⟩
  · rcases h with hnone | haccepted
    · rw [hrejected, hnone, append_nil]
      rfl
    · rw [hrejected] at haccepted
      cases haccepted
  · have hremoved : removed.flatMap news = [] := by
      rw [flatMap_eq_nil_iff]
      exact fun old hmem => news_of_replaceable (hall old hmem)
    rw [hnext, hold]
    simp only [flatMap_append, hremoved, nil_append, append_assoc, flatMap_singleton]
    rfl

variable {o : IncidentObservation}

namespace RootCauseEngine
open IncidentEngine (keep)
variable {engine : RootCauseEngine} {delivery : Delivery}
theorem step_policy (engine : RootCauseEngine) (delivery : Delivery) :
    (engine.step delivery).policy = engine.policy := by
  apply step_caches (P := fun next => next.policy = engine.policy)
  · intro a b hsame hpolicy
    exact hsame.policy.symm.trans hpolicy
  · rfl
  · exact fun next habsorb => (absorb_frame habsorb).policy

theorem step_without_news (h : delivery.event.news = []) :
    (engine.step delivery).activeIncidents = engine.activeIncidents := by
  apply step_caches (P := fun next => next.activeIncidents = engine.activeIncidents)
  · intro a b hsame hincidents
    exact hsame.activeIncidents.symm.trans hincidents
  · rfl
  · intro next habsorb
    cases absorb_cached habsorb with
    | opened o hpayload hsource | closed o hpayload hsource =>
      rw [news, hpayload, hsource] at h
      cases h
    | route | uplink | probe | wifi => rfl

theorem step_news (hpayload : delivery.event.payload = .incident o)
    (hsource : delivery.event.header.source = .incidentEngine)
    (hstate : o.state = .active ∨ o.state = .resolved) :
    (engine.step delivery).activeIncidents =
      (keep engine.activeIncidents o).trim engine.policy.cacheBound := by
  have habsorb : engine.absorb delivery.event = .changed { engine with
      activeIncidents := (keep engine.activeIncidents o).trim engine.policy.cacheBound } := by
    rw [absorb, hpayload, hsource]
    rcases hstate with hstate | hstate
    all_goals simp [absorbIncident, hstate, keep]
  exact (process_caches habsorb).activeIncidents.symm
end RootCauseEngine

open Foundation Foundation.OrderedMap Foundation.Runs

/-- The bus with both engines, how far their callbacks for the event being delivered have come,
and what the callback of the incident engine has yet to publish. -/
structure Engines where
  bus : EventBus
  incidents : IncidentEngine
  nextEventId : ℕ
  outbox : List IncidentObservation
  incidentsRan : Bool
  rootCause : RootCauseEngine
  rootCauseRan : Bool

namespace Engines
open IncidentEngine (Accounted held keep Tidy)

inductive Op where
  | bus (op : EventBus.Op)
  | incidents
  | announce
  | rootCause (clock : ClockReadings)

def initial (incidents : AcceptedPolicy) (rootCause : AcceptedRootCausePolicy) (capacity : ℕ)
    (hcapacity : 0 < capacity) : Engines where
  bus := .create capacity hcapacity
  incidents := .initial incidents
  nextEventId := 1
  outbox := []
  incidentsRan := false
  rootCause := .initial rootCause
  rootCauseRan := false

def busStep (s : Engines) : EventBus.Op → Engines
  | .take =>
    match s.bus.dispatcher with
    | .waiting => { s with bus := s.bus.take, incidentsRan := false, rootCauseRan := false }
    | _ => s
  | .complete =>
    if s.incidentsRan && s.outbox.isEmpty && s.rootCauseRan then { s with bus := s.bus.complete }
    else s
  | op => { s with bus := s.bus.step op }

/-- `IncidentEngine::process` up to the end of its locked section. An exception ends the
callback, and the bus counts it. -/
def handle (s : Engines) (event : NetworkEvent) : Engines :=
  match s.incidents.process event with
  | (incidents, .done _ emissions) =>
    { s with incidents := incidents, outbox := emissions, incidentsRan := true }
  | (incidents, .threw) =>
    { s with incidents := incidents, incidentsRan := true, bus := s.bus.callbackFailed }

/-- `IncidentEngine::publish` for the first observation that is left. An event that cannot be
built ends the callback, and the observations behind it are lost. -/
def announce (s : Engines) (o : IncidentObservation) (outbox : List IncidentObservation) :
    Engines :=
  match IncidentEngine.publish (s.nextEventId % 2 ^ 64) o with
  | .ok event =>
    { s with
      nextEventId := s.nextEventId + 1
      outbox := outbox
      bus := (s.bus.publish event).1 }
  | .error _ =>
    { s with
      nextEventId := s.nextEventId + 1
      outbox := []
      bus := s.bus.callbackFailed }

def step (s : Engines) : Op → Engines
  | .bus op => s.busStep op
  | .incidents =>
    match s.bus.dispatcher with
    | .delivering event => if s.incidentsRan then s else s.handle event
    | _ => s
  | .announce =>
    match s.outbox with
    | [] => s
    | o :: outbox => s.announce o outbox
  | .rootCause clock =>
    match s.bus.dispatcher with
    | .delivering event =>
      if s.rootCauseRan then s
      else { s with rootCause := s.rootCause.step ⟨event, clock⟩, rootCauseRan := true }
    | _ => s

def keeps (s : Engines) : Op → Bool
  | .announce =>
    match s.outbox with
    | [] => true
    | o :: _ =>
      match IncidentEngine.publish (s.nextEventId % 2 ^ 64) o with
      | .ok event => (s.bus.publish event).2.accepted
      | .error _ => true
  | _ => true

def genuine : Op → Bool
  | .bus (.publish event) => event.news.isEmpty
  | _ => true

def Quiescent (s : Engines) : Prop := s.bus.queue = [] ∧ s.bus.delivering = []

/-- The incidents the root cause engine holds are those the incident engine lists, and each is
held under its id. -/
def Agree (s : Engines) : Prop :=
  (s.rootCause.activeIncidents.entries.map Prod.snd).Perm s.incidents.listActiveIncidents ∧
    ∀ id o, s.rootCause.activeIncidents.find? id = some o → o.id = id

def unread (s : Engines) : List NetworkEvent :=
  if s.rootCauseRan then [] else s.bus.delivering

def underway (s : Engines) : List IncidentObservation :=
  (s.unread ++ s.bus.queue).flatMap NetworkEvent.news ++ s.outbox

structure Numbered (nextEventId : ℕ) (bus : EventBus) : Prop where
  sequence : bus.nextSequence ≤ 2 ^ 64
  positive : nextEventId ≠ 0
  behind : nextEventId ≤ bus.nextSequence
  ahead : bus.delivering ++ bus.queue ≠ [] → nextEventId < bus.nextSequence

def Bounded (bound : ℕ) (log : List IncidentObservation) : Prop :=
  ∀ part, part <+: log → (held part).size ≤ bound

/-- `log` is everything emitted, of which the root cause engine has read `read`; all along the
log no more incidents were active than it may hold. -/
structure Connected (policy : AcceptedRootCausePolicy) (s : Engines)
    (log read : List IncidentObservation) : Prop where
  accounted : Accounted log ⟨s.incidents, []⟩
  count : log.length + 1 = s.nextEventId + s.outbox.length
  split : log = read ++ s.underway
  held : s.rootCause.activeIncidents = held read
  bounded : Bounded policy.cacheBound log

structure Linked (policy : AcceptedRootCausePolicy) (s : Engines) : Prop where
  control : EventBus.Control s.bus
  accepted : s.rootCause.policy = policy
  numbered : Numbered s.nextEventId s.bus
  busy : s.outbox ≠ [] → s.incidentsRan = true ∧ s.bus.delivering ≠ []
  connected : ∃ log read, Connected policy s log read

variable {policy : AcceptedRootCausePolicy} {s : Engines} {bus : EventBus} {n : ℕ}
  {event : NetworkEvent}

theorem Numbered.of_sequence (h : Numbered n s.bus)
    (hsequence : bus.nextSequence = s.bus.nextSequence)
    (hflow : bus.delivering ++ bus.queue ≠ [] → s.bus.delivering ++ s.bus.queue ≠ []) :
    Numbered n bus := by
  refine ⟨hsequence ▸ h.sequence, h.positive, hsequence ▸ h.behind, fun hsome => ?_⟩
  rw [hsequence]
  exact h.ahead (hflow hsome)

variable {log : List IncidentObservation}
theorem Connected.of_underway {s' : Engines} {read : List IncidentObservation}
    (h : Connected policy s log read) (hincidents : s'.incidents = s.incidents)
    (hcause : s'.rootCause = s.rootCause) (hnext : s'.nextEventId = s.nextEventId)
    (houtbox : s'.outbox = s.outbox) (hunderway : s'.underway = s.underway) :
    Connected policy s' log read := by
  refine ⟨hincidents ▸ h.accounted, ?_, hunderway ▸ h.split, hcause ▸ h.held, h.bounded⟩
  rw [hnext, houtbox]
  exact h.count

theorem Numbered.publish (h : Numbered n bus) (event : NetworkEvent) :
    Numbered n (bus.publish event).1 := by
  obtain ⟨hsequence, hpositive, hbehind, hahead⟩ := h
  rcases publish_cases bus event with hrejected | ⟨-, hqueued⟩
  · rw [hrejected]
    exact ⟨hsequence, hpositive, hbehind, hahead⟩
  · have hleft := hqueued.left
    have hnext := hqueued.nextSequence
    refine ⟨?_, hpositive, ?_, fun _ => ?_⟩ <;> omega

section
variable (h : Linked policy s)
include h
theorem Linked.quiet (hcontrol : EventBus.Control bus) (hquiet : EventBus.Quiet s.bus bus)
    (hsequence : bus.nextSequence = s.bus.nextSequence) :
    Linked policy { s with bus := bus } := by
  obtain ⟨log, read, hconnected⟩ := h.connected
  have hunderway : ({ s with bus := bus } : Engines).underway = s.underway := by
    simp [underway, unread, hquiet.queue, hquiet.delivering]
  refine ⟨hcontrol, h.accepted, ?_, ?_, log, read, hconnected.of_underway rfl rfl rfl rfl hunderway⟩
  · apply h.numbered.of_sequence hsequence
    rw [hquiet.queue, hquiet.delivering]
    exact id
  · rw [hquiet.delivering]
    exact h.busy

theorem Linked.publish (hnews : event.news = []) :
    Linked policy { s with bus := (s.bus.publish event).1 } := by
  obtain ⟨log, read, hconnected⟩ := h.connected
  have hdelivering := delivering_publish s.bus event
  have hqueue : (s.bus.publish event).1.queue.flatMap news =
      s.bus.queue.flatMap news := by
    rw [news_publish (.inl hnews), hnews, append_nil]
  have hunderway : ({ s with bus := (s.bus.publish event).1 } : Engines).underway =
      s.underway := by
    simp [underway, unread, hdelivering, hqueue]
  refine ⟨h.control.publish event, h.accepted, h.numbered.publish event, ?_, log, read,
    hconnected.of_underway rfl rfl rfl rfl hunderway⟩
  rw [hdelivering]
  exact h.busy

theorem Linked.take : Linked policy (s.busStep .take) := by
  rw [busStep]
  split
  next hphase =>
    have hidle : s.bus.delivering = [] := by rw [delivering, hphase]
    have houtbox : s.outbox = [] := by
      by_contra hsome
      exact (h.busy hsome).2 hidle
    have hunread : s.unread = [] := by rw [unread, hidle, ite_self]
    obtain ⟨log, read, hconnected⟩ := h.connected
    have hflow : s.bus.take.delivering ++ s.bus.take.queue = s.bus.queue := by
      rcases s.bus.take_cases with ⟨_, -, hqueue, hevent⟩ | hquiet
      · rw [delivering_eq hevent, hqueue]
        rfl
      · rw [hquiet.queue, hquiet.delivering, hidle]
        rfl
    have hsequence : s.bus.take.nextSequence = s.bus.nextSequence := by
      rw [EventBus.take, hphase]
      dsimp only
      split
      · rfl
      · split_ifs <;> rfl
    have hunderway : ({ s with
        bus := s.bus.take
        incidentsRan := false
        rootCauseRan := false } : Engines).underway = s.underway := by
      rw [underway, underway, unread, if_neg Bool.false_ne_true, hflow, hunread, List.nil_append]
    refine ⟨h.control.step .take, h.accepted, ?_, absurd houtbox, log, read,
      hconnected.of_underway rfl rfl rfl rfl hunderway⟩
    apply h.numbered.of_sequence hsequence
    rw [hflow, hidle]
    exact id
  next => exact h

theorem Linked.complete : Linked policy (s.busStep .complete) := by
  rw [busStep]
  split_ifs with hdone
  · simp only [Bool.and_eq_true, List.isEmpty_iff] at hdone
    obtain ⟨⟨-, houtbox⟩, hran⟩ := hdone
    rcases s.bus.complete_cases with ⟨_, hphase, hqueue, -⟩ | ⟨-, hsame⟩
    · obtain ⟨log, read, hconnected⟩ := h.connected
      have hsequence : s.bus.complete.nextSequence = s.bus.nextSequence := by
        rw [EventBus.complete, hphase]
      have hunderway : ({ s with bus := s.bus.complete } : Engines).underway = s.underway := by
        rw [underway, underway, unread, unread, if_pos hran, if_pos hran, hqueue]
      refine ⟨h.control.step .complete, h.accepted, ?_, absurd houtbox, log,
        read, hconnected.of_underway rfl rfl rfl rfl hunderway⟩
      apply h.numbered.of_sequence hsequence
      rw [EventBus.delivering_eq hphase]
      exact fun _ => List.cons_ne_nil _ _
    · rw [hsame]
      exact h
  · exact h

theorem Linked.busStep (op : EventBus.Op) (hgenuine : genuine (.bus op)) :
    Linked policy (s.step (.bus op)) := by
  cases op with
  | publish _ => exact h.publish (isEmpty_iff.mp hgenuine)
  | take => exact h.take
  | complete => exact h.complete
  | start =>
    exact h.quiet (h.control.step .start) (quiet_start h.control)
      (undisturbed_start h.control.absent.mp).nextSequence
  | stop fromDispatcher =>
    exact h.quiet (h.control.step (.stop fromDispatcher)) (quiet_stop _ _)
      (undisturbed_stop _ _).nextSequence
  | joinDispatcher =>
    exact h.quiet (h.control.step .joinDispatcher) (quiet_joinDispatcher _)
      (undisturbed_joinDispatcher _).nextSequence
  | callbackFailed =>
    exact h.quiet (h.control.step .callbackFailed) (quiet_callbackFailed _)
      (undisturbed_callbackFailed _).nextSequence
  | leave =>
    exact h.quiet (h.control.step .leave) (quiet_leave _) (undisturbed_leave _).nextSequence
end

theorem Linked.id_left (h : Linked policy s) (hphase : s.bus.dispatcher = .delivering event)
    (houtbox : s.outbox = []) : s.incidents.nextIncidentId ≠ 0 := by
  obtain ⟨_, _, hconnected⟩ := h.connected
  have hissued := hconnected.accounted.ledger.used_le
  have hcount := hconnected.count
  have hsequence := h.numbered.sequence
  have hahead : s.nextEventId < s.bus.nextSequence := by
    apply h.numbered.ahead
    rw [delivering_eq hphase]
    exact cons_ne_nil _ _
  rw [append_nil] at hissued
  rw [houtbox, length_nil, Nat.add_zero] at hcount
  intro hnone
  rw [IncidentEngine.issued, hnone] at hissued
  omega

section Bounded
variable {emissions closed : List IncidentObservation} {e : IncidentEngine} {bound : ℕ}
section
variable (h : Bounded bound log)
include h
theorem Bounded.append_single (ho : (held (log ++ [o])).size ≤ bound) :
    Bounded bound (log ++ [o]) := by
  intro part hpart
  rcases prefix_concat_iff.mp hpart with rfl | hpart
  · exact ho
  · exact h part hpart

theorem Bounded.append_closed (hclosed : ∀ o ∈ closed, o.state = .resolved) :
    Bounded bound (log ++ closed) := by
  induction closed generalizing log with
  | nil =>
    rw [append_nil]
    exact h
  | cons o _ ih =>
    have hresolved := hclosed o mem_cons_self
    have hfirst : Bounded bound (log ++ [o]) := by
      apply h.append_single
      rw [IncidentEngine.held_append_single, keep, hresolved]
      exact (size_erase_le _ _).trans (h log (prefix_refl log))
    rw [append_cons]
    exact ih hfirst fun other hother => hclosed other (mem_cons_of_mem o hother)

theorem Bounded.append (htidy : Tidy emissions) (haccounted : Accounted (log ++ emissions) ⟨e, []⟩)
    (hroom : e.listActiveIncidents.length ≤ bound) : Bounded bound (log ++ emissions) := by
  obtain ⟨_, last, rfl, hclosed, hlast⟩ := htidy
  have hafter := h.append_closed hclosed
  rw [← append_assoc] at haccounted ⊢
  rcases last with _ | ⟨o, _ | ⟨other, rest⟩⟩
  · rw [append_nil]
    exact hafter
  · apply hafter.append_single
    rw [IncidentEngine.size_held haccounted]
    exact hroom
  · simp only [length_cons] at hlast
    omega
end
end Bounded

theorem Linked.incidents (h : Linked policy s)
    (hroom : (s.step .incidents).incidents.listActiveIncidents.length ≤ policy.cacheBound) :
    Linked policy (s.step .incidents) := by
  rw [step] at hroom ⊢
  split
  next event hphase =>
    split_ifs with hran
    · exact h
    · have houtbox : s.outbox = [] := by
        by_contra hsome
        exact hran (h.busy hsome).1
      obtain ⟨log, read, hconnected⟩ := h.connected
      obtain ⟨e, _, emissions, hprocess, haccounted, htidy⟩ :=
        IncidentEngine.process_accounted hconnected.accounted (h.id_left hphase houtbox) event
      have hhandle : s.handle event =
          { s with incidents := e, outbox := emissions, incidentsRan := true } := by
        rw [handle, hprocess]
      simp only [hphase, hran, Bool.false_eq_true, ↓reduceIte, hhandle] at hroom
      rw [hhandle]
      refine ⟨h.control, h.accepted, h.numbered, fun _ => ⟨rfl, ?_⟩, log ++ emissions, read,
        haccounted, ?_, ?_, hconnected.held, hconnected.bounded.append htidy haccounted hroom⟩
      · rw [delivering_eq hphase]
        exact cons_ne_nil _ _
      · have hcount := hconnected.count
        rw [houtbox, length_nil] at hcount
        rw [length_append]
        dsimp only
        omega
      · have hsplit := hconnected.split
        rw [underway, houtbox, append_nil] at hsplit
        rw [underway, hsplit, append_assoc]
        rfl
  next => exact h

theorem publish_news {n : ℕ} (h : IncidentEngine.publish n o = .ok event) : event.news = [o] := by
  obtain ⟨hheader, hpayload⟩ := Prod.mk.inj (make_ok h)
  rw [news, hpayload, hheader]
  rfl

theorem Linked.announce (h : Linked policy s) (hkeeps : s.keeps .announce) :
    Linked policy (s.step .announce) := by
  rw [step]
  rw [keeps] at hkeeps
  cases houtbox : s.outbox with
  | nil => exact h
  | cons o _ =>
    obtain ⟨log, read, hconnected⟩ := h.connected
    have hbusy := h.busy (by rw [houtbox]; exact cons_ne_nil _ _)
    have hahead : s.nextEventId < s.bus.nextSequence := by
      apply h.numbered.ahead
      rw [Ne, append_eq_nil_iff, not_and_or]
      exact .inl hbusy.2
    have hid : s.nextEventId % 2 ^ 64 ≠ 0 := by
      have hsequence := h.numbered.sequence
      have hpositive := h.numbered.positive
      rw [Nat.mod_eq_of_lt (by omega)]
      exact hpositive
    have hmem : o ∈ log := by
      rw [hconnected.split, underway, houtbox]
      simp
    obtain ⟨event, hevent⟩ :=
      (hconnected.accounted.entries o (mem_append_left _ hmem)).publish_ok hid
    rw [houtbox] at hkeeps
    simp only [hevent] at hkeeps
    dsimp only
    rw [Engines.announce, hevent]
    dsimp only
    have hdelivering := delivering_publish s.bus event
    have hqueue := news_publish (.inr hkeeps)
    refine ⟨h.control.publish event, h.accepted, ?_, ?_, log, read, hconnected.accounted, ?_, ?_,
      hconnected.held, hconnected.bounded⟩
    · rcases publish_cases s.bus event with hrejected | ⟨-, hqueued⟩
      · rw [hrejected] at hkeeps
        cases hkeeps
      · have hnumbered := h.numbered.publish event
        have hnext := hqueued.nextSequence
        refine ⟨hnumbered.sequence, Nat.succ_ne_zero _, ?_, fun _ => ?_⟩
        all_goals
          dsimp only
          omega
    · exact fun _ => ⟨hbusy.1, by rw [hdelivering]; exact hbusy.2⟩
    · have hcount := hconnected.count
      rw [houtbox, length_cons] at hcount
      dsimp only
      omega
    · have hsplit := hconnected.split
      rw [underway, houtbox] at hsplit
      rw [hsplit, underway, unread, unread, hdelivering]
      simp [hqueue, publish_news hevent]

theorem Linked.rootCause (h : Linked policy s) (clock : ClockReadings) :
    Linked policy (s.step (.rootCause clock)) := by
  rw [step]
  split
  next event hphase =>
    split_ifs with hran
    · exact h
    · obtain ⟨log, read, hconnected⟩ := h.connected
      have hunread : s.unread = [event] := by
        rw [unread, if_neg hran, delivering_eq hphase]
      have hsplit := hconnected.split
      rw [underway, hunread, singleton_append, flatMap_cons] at hsplit
      refine ⟨h.control, (RootCauseEngine.step_policy _ _).trans h.accepted, h.numbered, h.busy, log,
        ?_⟩
      rcases event.news_eq_nil_or with hnone | ⟨o, hnews, hpayload, hsource⟩
      · refine ⟨read, hconnected.accounted, hconnected.count, ?_, ?_, hconnected.bounded⟩
        · rw [hsplit, hnone]
          rfl
        · exact (RootCauseEngine.step_without_news hnone).trans hconnected.held
      · rw [hnews] at hsplit
        have hpart : read ++ [o] <+: log := by
          rw [hsplit, append_assoc, ← append_assoc]
          exact prefix_append _ _
        have hmem : o ∈ log := hpart.subset (mem_append_right _ mem_cons_self)
        refine ⟨read ++ [o], hconnected.accounted, hconnected.count, ?_, ?_, hconnected.bounded⟩
        · rw [hsplit, underway, unread, if_pos rfl]
          simp
        · refine (RootCauseEngine.step_news hpayload hsource
            (hconnected.accounted.states o hmem)).trans ?_
          rw [hconnected.held, ← IncidentEngine.held_append_single, h.accepted]
          exact trim_of_le (hconnected.bounded _ hpart)
  next => exact h

theorem Linked.step (h : Linked policy s) (op : Op) (hgenuine : genuine op)
    (hkeeps : s.keeps op)
    (hroom : (s.step op).incidents.listActiveIncidents.length ≤ policy.cacheBound) :
    Linked policy (s.step op) := by
  cases op with
  | bus op => exact h.busStep op hgenuine
  | incidents => exact h.incidents hroom
  | announce => exact h.announce hkeeps
  | rootCause clock => exact h.rootCause ..

theorem linked_initial (incidents : AcceptedPolicy) (rootCause : AcceptedRootCausePolicy)
    (capacity : ℕ) (hcapacity : 0 < capacity) :
    Linked rootCause (initial incidents rootCause capacity hcapacity) := by
  refine ⟨control_create _ _, rfl, ⟨?_, ?_, ?_, ?_⟩, absurd rfl,
    [], [], IncidentEngine.accounted_initial incidents, rfl, rfl, rfl, ?_⟩
  · change 1 ≤ 2 ^ 64
    norm_num
  · exact Nat.one_ne_zero
  · exact Nat.le_refl 1
  · exact absurd rfl
  · intro part hpart
    rw [prefix_nil.mp hpart]
    exact Nat.zero_le _

theorem Linked.agree (h : Linked policy s) (hquiescent : s.Quiescent) : s.Agree := by
  obtain ⟨log, read, hconnected⟩ := h.connected
  have houtbox : s.outbox = [] := by
    by_contra hsome
    exact (h.busy hsome).2 hquiescent.2
  have hsplit := hconnected.split
  rw [underway, unread, hquiescent.1, hquiescent.2, ite_self, houtbox] at hsplit
  have hall : log = read := by rw [hsplit]; simp
  rw [Agree, hconnected.held, ← hall]
  exact ⟨IncidentEngine.held_perm hconnected.accounted,
    fun id o ho => ((IncidentEngine.find?_held_iff hconnected.accounted).mp ho).2⟩

section Agreement
variable (incidents : AcceptedPolicy) (rootCause : AcceptedRootCausePolicy) (capacity : ℕ)
  (hcapacity : 0 < capacity)

/-- Whatever is published and however the callbacks interleave, at rest the two engines know the
same active incidents, provided that no incident observation is rejected or forged and that no
more incidents are active than the root cause engine may hold. -/
theorem engines_agree (ops : List Op)
    (hops : AllSteps step (fun s op => genuine op = true ∧ s.keeps op = true)
      (initial incidents rootCause capacity hcapacity) ops)
    (hroom : AllStates step
      (fun s => s.incidents.listActiveIncidents.length ≤ rootCause.cacheBound)
      (initial incidents rootCause capacity hcapacity) ops)
    (hquiescent : (run step (initial incidents rootCause capacity hcapacity) ops).Quiescent) :
    (run step (initial incidents rootCause capacity hcapacity) ops).Agree := by
  have hlinked := run_guarded (P := Linked rootCause)
    (fun s op h hguard => h.step op hguard.1.1 hguard.1.2 hguard.2)
    (linked_initial incidents rootCause capacity hcapacity) (hops.and_next hroom)
  exact hlinked.agree hquiescent
end Agreement

def samplePassed : List Op :=
  [.bus .take, .rootCause fun _ _ => 0, .incidents, .bus .complete]

def sampleOps : List Op :=
  [.bus .start, .bus (.publish RootCauseEngine.sampleUplink)] ++ samplePassed ++
    [.bus (.publish RootCauseEngine.sampleUplink), .bus .take, .incidents, .announce,
      .rootCause fun _ _ => 0, .bus .complete] ++ samplePassed

def sampleInitial : Engines :=
  initial ⟨.standard, IncidentPolicy.standard_accepted⟩ .standard 1 Nat.one_pos

theorem engines_agree_sample :
    (run step sampleInitial sampleOps).incidents.listActiveIncidents.length = 1 ∧
      (run step sampleInitial sampleOps).Agree :=
  ⟨by decide +kernel, engines_agree _ _ _ _ sampleOps (by decide +kernel) (by decide +kernel)
    ⟨by decide +kernel, by decide +kernel⟩⟩

def forgedOps : List Op :=
  [.bus .start, .bus (.publish RootCauseEngine.sampleDelivery.event)] ++ samplePassed

theorem forged_incident_held :
    AllSteps step (fun s op => s.keeps op = true) sampleInitial forgedOps ∧
      AllStates step (fun s => s.incidents.listActiveIncidents.length ≤
        AcceptedRootCausePolicy.standard.cacheBound) sampleInitial forgedOps ∧
      (run step sampleInitial forgedOps).Quiescent ∧
      ¬(run step sampleInitial forgedOps).Agree := by
  refine ⟨by decide +kernel, by decide +kernel, ⟨by decide +kernel, by decide +kernel⟩, ?_⟩
  intro hagree
  exact absurd hagree.1.length_eq (by decide +kernel)
end Engines
end WeakNet
